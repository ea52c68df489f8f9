import LoadDispatch.Text.Charset.DesktopPages
import LoadDispatch.Text.Charset.DosPages
import LoadDispatch.Text.Charset.Escapes
import LoadDispatch.Text.Charset.Korean
import LoadDispatch.Text.Charset.MainframePages
import LoadDispatch.Text.Charset.Switching
import LoadDispatch.Text.Charset.Utf7
import LoadDispatch.Text.Charset.WindowsPages
import LoadDispatch.Text.Punycode

/-!
# The names of encodings

An encoding has one proper name and may have others.  Case does not count in a name, and neither
does the sign between its words; a full stop is kept apart, but the other names are also found with
a full stop for a word's end.

Not everything that has a name turns bytes into text.  What does not is known all the same, and
refuses every body.
-/

namespace LoadDispatch.Text.Charset

/-- An encoding of Unicode, which may want a mark in front. -/
def unicode (e : Encoding) : Charset := fun bytes =>
  match e.lacksMark? bytes with
  | some encoding => .error (.markMissing encoding)
  | none => .ok (shown (e.items false bytes))

/-- A code page. -/
def page (p : CodePage) : Charset := fun bytes => .ok (p.read bytes)

/-- An encoding that is none. -/
def refusing (why : Unreadable) : Charset := fun _ => .error why

/-- A byte of ASCII. -/
def asciiOrGap (b : UInt8) : Char :=
  if b.toNat < 0x80 then Char.ofNat b.toNat else replacement

/-- Punycode, read as far as it goes.  What stands behind the last hyphen has to be ASCII. -/
def punycode : Charset := fun bytes =>
  let (basic, numerals) :=
    if bytes.contains 0x2D then
      let numerals := (bytes.reverse.takeWhile (· != 0x2D)).reverse
      (bytes.take (bytes.length - numerals.length - 1), numerals)
    else ([], bytes)
  match numerals.find? fun b => 0x80 ≤ b.toNat with
  | some b => .error (.beyondAscii b (numerals.takeWhile fun c => c.toNat < 0x80).length)
  | none =>
    .ok (ofCodePoints
      (Punycode.decodeLenient (basic.map (asciiOrGap · |>.toNat)) (numerals.map asciiOrGap)))

/-- An encoding and its names. -/
structure Named where
  /-- The proper name. -/
  name : String
  /-- The other names. -/
  others : List String
  /-- The encoding. -/
  charset : Charset

/-- The encodings that are known. -/
def known : List Named := [
  ⟨"utf_8", ["cp65001", "u8", "utf", "utf8", "utf8_ucs2", "utf8_ucs4"], unicode .utf8⟩,
  ⟨"utf_8_sig", [], unicode .utf8Marked⟩,
  ⟨"utf_16", ["u16", "utf16"], unicode .utf16Marked⟩,
  ⟨"utf_16_be", ["unicodebigunmarked", "utf_16be"], unicode (.utf16 true)⟩,
  ⟨"utf_16_le", ["unicodelittleunmarked", "utf_16le"], unicode (.utf16 false)⟩,
  ⟨"utf_32", ["u32", "utf32"], unicode .utf32Marked⟩,
  ⟨"utf_32_be", ["utf_32be"], unicode (.utf32 true)⟩,
  ⟨"utf_32_le", ["utf_32le"], unicode (.utf32 false)⟩,
  ⟨"utf_7", ["u7", "unicode_1_1_utf_7", "utf7"], utf7⟩,
  ⟨"unicode_escape", [], allEscapes⟩,
  ⟨"raw_unicode_escape", [], fewEscapes⟩,
  ⟨"punycode", [], punycode⟩,
  ⟨"ascii", ["646", "ansi_x3.4_1968", "ansi_x3.4_1986", "ansi_x3_4_1968", "cp367", "csascii",
    "ibm367", "iso646_us", "iso_646.irv_1991", "iso_ir_6", "us", "us_ascii"], page .ascii⟩,
  ⟨"latin_1", ["8859", "cp819", "csisolatin1", "ibm819", "iso8859", "iso8859_1", "iso_8859_1",
    "iso_8859_1_1987", "iso_ir_100", "l1", "latin", "latin1"], page .latin1⟩,
  ⟨"charmap", [], page .latin1⟩,
  ⟨"euc_kr", ["euckr", "korean", "ks_c_5601", "ks_c_5601_1987", "ks_x_1001", "ksc5601", "ksx1001",
    "x_mac_korean"], extendedKorean⟩,
  ⟨"cp949", ["949", "ms949", "uhc"], windowsKorean⟩,
  ⟨"johab", ["cp1361", "ms1361"], combinedKorean⟩,
  ⟨"iso2022_kr", ["csiso2022kr", "iso2022kr", "iso_2022_kr"], Switching.korean.read⟩,
  ⟨"gb2312", ["chinese", "csiso58gb231280", "euc_cn", "euccn", "eucgb2312_cn", "gb2312_1980",
    "gb2312_80", "iso_ir_58", "x_mac_simp_chinese"], gb2312⟩,
  ⟨"gbk", ["936", "cp936", "ms936"], gbkText⟩,
  ⟨"gb18030", ["gb18030_2000"], gb18030Text⟩,
  ⟨"hz", ["hz_gb", "hz_gb_2312", "hzgb"], hz⟩,
  ⟨"big5", ["big5_tw", "csbig5", "x_mac_trad_chinese"], big5Text⟩,
  ⟨"cp950", ["950", "ms950"], windowsBig5Text⟩,
  ⟨"big5hkscs", ["big5_hkscs", "hkscs"], hongKong⟩,
  ⟨"euc_jp", ["eucjp", "u_jis", "ujis"], extendedJapanese⟩,
  ⟨"euc_jis_2004", ["euc_jis2004", "eucjis2004", "jisx0213"], extendedEdition .y2004⟩,
  ⟨"euc_jisx0213", ["eucjisx0213"], extendedEdition .y2000⟩,
  ⟨"shift_jis", ["csshiftjis", "s_jis", "shiftjis", "sjis", "x_mac_japanese"], shiftJapanese⟩,
  ⟨"shift_jis_2004", ["s_jis_2004", "shiftjis2004", "sjis_2004"], shiftEdition .y2004⟩,
  ⟨"shift_jisx0213", ["s_jisx0213", "shiftjisx0213", "sjisx0213"], shiftEdition .y2000⟩,
  ⟨"cp932", ["932", "ms932", "ms_kanji", "mskanji"], windowsJapanese⟩,
  ⟨"iso2022_jp", ["csiso2022jp", "iso2022jp", "iso_2022_jp"], Switching.japanese.read⟩,
  ⟨"iso2022_jp_1", ["iso2022jp_1", "iso_2022_jp_1"], Switching.japanese1.read⟩,
  ⟨"iso2022_jp_2", ["iso2022jp_2", "iso_2022_jp_2"], Switching.japanese2.read⟩,
  ⟨"iso2022_jp_3", ["iso2022jp_3", "iso_2022_jp_3"], Switching.japanese3.read⟩,
  ⟨"iso2022_jp_2004", ["iso2022jp_2004", "iso_2022_jp_2004"], Switching.japanese2004.read⟩,
  ⟨"iso2022_jp_ext", ["iso2022jp_ext", "iso_2022_jp_ext"], Switching.japaneseExtended.read⟩,
  ⟨"idna", [], refusing .noReplacement⟩,
  ⟨"undefined", [], refusing .undefined⟩,
  ⟨"rot_13", ["rot13"], refusing .noBytes⟩,
  ⟨"base64_codec", ["base64", "base_64"], refusing .noText⟩,
  ⟨"bz2_codec", ["bz2"], refusing .noText⟩,
  ⟨"hex_codec", ["hex"], refusing .noText⟩,
  ⟨"quopri_codec", ["quopri", "quoted_printable", "quotedprintable"], refusing .noText⟩,
  ⟨"uu_codec", ["uu"], refusing .noText⟩,
  ⟨"zlib_codec", ["zip", "zlib"], refusing .noText⟩,
  ⟨"cp1250", ["1250", "windows_1250"], page .cp1250⟩,
  ⟨"cp1251", ["1251", "windows_1251"], page .cp1251⟩,
  ⟨"cp1252", ["1252", "windows_1252"], page .cp1252⟩,
  ⟨"cp1253", ["1253", "windows_1253"], page .cp1253⟩,
  ⟨"cp1254", ["1254", "windows_1254"], page .cp1254⟩,
  ⟨"cp1255", ["1255", "windows_1255"], page .cp1255⟩,
  ⟨"cp1256", ["1256", "windows_1256"], page .cp1256⟩,
  ⟨"cp1257", ["1257", "windows_1257"], page .cp1257⟩,
  ⟨"cp1258", ["1258", "windows_1258"], page .cp1258⟩,
  ⟨"cp874", [], page .cp874⟩,
  ⟨"iso8859_2", ["csisolatin2", "iso_8859_2", "iso_8859_2_1987", "iso_ir_101", "l2", "latin2"
    ], page .part2⟩,
  ⟨"iso8859_3", ["csisolatin3", "iso_8859_3", "iso_8859_3_1988", "iso_ir_109", "l3", "latin3"
    ], page .part3⟩,
  ⟨"iso8859_4", ["csisolatin4", "iso_8859_4", "iso_8859_4_1988", "iso_ir_110", "l4", "latin4"
    ], page .part4⟩,
  ⟨"iso8859_5", ["csisolatincyrillic", "cyrillic", "iso_8859_5", "iso_8859_5_1988", "iso_ir_144"
    ], page .part5⟩,
  ⟨"iso8859_6", ["arabic", "asmo_708", "csisolatinarabic", "ecma_114", "iso_8859_6",
    "iso_8859_6_1987", "iso_ir_127"], page .part6⟩,
  ⟨"iso8859_7", ["csisolatingreek", "ecma_118", "elot_928", "greek", "greek8", "iso_8859_7",
    "iso_8859_7_1987", "iso_ir_126"], page .part7⟩,
  ⟨"iso8859_8", ["csisolatinhebrew", "hebrew", "iso_8859_8", "iso_8859_8_1988", "iso_ir_138"
    ], page .part8⟩,
  ⟨"iso8859_9", ["csisolatin5", "iso_8859_9", "iso_8859_9_1989", "iso_ir_148", "l5", "latin5"
    ], page .part9⟩,
  ⟨"iso8859_10", ["csisolatin6", "iso_8859_10", "iso_8859_10_1992", "iso_ir_157", "l6", "latin6"
    ], page .part10⟩,
  ⟨"iso8859_11", ["iso_8859_11", "iso_8859_11_2001", "thai"], page .part11⟩,
  ⟨"iso8859_13", ["iso_8859_13", "l7", "latin7"], page .part13⟩,
  ⟨"iso8859_14", ["iso_8859_14", "iso_8859_14_1998", "iso_celtic", "iso_ir_199", "l8", "latin8"
    ], page .part14⟩,
  ⟨"iso8859_15", ["iso_8859_15", "l9", "latin9"], page .part15⟩,
  ⟨"iso8859_16", ["iso_8859_16", "iso_8859_16_2001", "iso_ir_226", "l10", "latin10"], page .part16⟩,
  ⟨"cp437", ["437", "cspc8codepage437", "ibm437"], page .cp437⟩,
  ⟨"cp720", [], page .cp720⟩,
  ⟨"cp737", [], page .cp737⟩,
  ⟨"cp775", ["775", "cspc775baltic", "ibm775"], page .cp775⟩,
  ⟨"cp850", ["850", "cspc850multilingual", "ibm850"], page .cp850⟩,
  ⟨"cp852", ["852", "cspcp852", "ibm852"], page .cp852⟩,
  ⟨"cp855", ["855", "csibm855", "ibm855"], page .cp855⟩,
  ⟨"cp856", [], page .cp856⟩,
  ⟨"cp857", ["857", "csibm857", "ibm857"], page .cp857⟩,
  ⟨"cp858", ["858", "csibm858", "ibm858"], page .cp858⟩,
  ⟨"cp860", ["860", "csibm860", "ibm860"], page .cp860⟩,
  ⟨"cp861", ["861", "cp_is", "csibm861", "ibm861"], page .cp861⟩,
  ⟨"cp862", ["862", "cspc862latinhebrew", "ibm862"], page .cp862⟩,
  ⟨"cp863", ["863", "csibm863", "ibm863"], page .cp863⟩,
  ⟨"cp864", ["864", "csibm864", "ibm864"], page .cp864⟩,
  ⟨"cp865", ["865", "csibm865", "ibm865"], page .cp865⟩,
  ⟨"cp866", ["866", "csibm866", "ibm866"], page .cp866⟩,
  ⟨"cp869", ["869", "cp_gr", "csibm869", "ibm869"], page .cp869⟩,
  ⟨"cp1125", ["1125", "cp866u", "ibm1125", "ruscii"], page .cp1125⟩,
  ⟨"cp1006", [], page .cp1006⟩,
  ⟨"cp037", ["037", "csibm037", "ebcdic_cp_ca", "ebcdic_cp_nl", "ebcdic_cp_us", "ebcdic_cp_wt",
    "ibm037", "ibm039"], page .cp037⟩,
  ⟨"cp273", ["273", "csibm273", "ibm273"], page .cp273⟩,
  ⟨"cp424", ["424", "csibm424", "ebcdic_cp_he", "ibm424"], page .cp424⟩,
  ⟨"cp500", ["500", "csibm500", "ebcdic_cp_be", "ebcdic_cp_ch", "ibm500"], page .cp500⟩,
  ⟨"cp875", [], page .cp875⟩,
  ⟨"cp1026", ["1026", "csibm1026", "ibm1026"], page .cp1026⟩,
  ⟨"cp1140", ["1140", "ibm1140"], page .cp1140⟩,
  ⟨"mac_arabic", [], page .macArabic⟩,
  ⟨"mac_croatian", [], page .macCroatian⟩,
  ⟨"mac_cyrillic", ["maccyrillic"], page .macCyrillic⟩,
  ⟨"mac_farsi", [], page .macFarsi⟩,
  ⟨"mac_greek", ["macgreek"], page .macGreek⟩,
  ⟨"mac_iceland", ["maciceland"], page .macIceland⟩,
  ⟨"mac_latin2", ["mac_centeuro", "maccentraleurope", "maclatin2"], page .macLatin2⟩,
  ⟨"mac_roman", ["macintosh", "macroman"], page .macRoman⟩,
  ⟨"mac_romanian", [], page .macRomanian⟩,
  ⟨"mac_turkish", ["macturkish"], page .macTurkish⟩,
  ⟨"palmos", [], page .palm⟩,
  ⟨"hp_roman8", ["cp1051", "csHPRoman8", "ibm1051", "r8", "roman8"], page .roman8⟩,
  ⟨"koi8_r", ["cskoi8r"], page .koi8Russian⟩,
  ⟨"koi8_t", [], page .koi8Tajik⟩,
  ⟨"koi8_u", [], page .koi8Ukrainian⟩,
  ⟨"kz1048", ["kz_1048", "rk1048", "strk1048_2002"], page .kazakh⟩,
  ⟨"ptcp154", ["cp154", "csptcp154", "cyrillic_asian", "pt154"], page .paratype154⟩,
  ⟨"tis_620", ["iso_ir_166", "tis620", "tis_620_0", "tis_620_2529_0", "tis_620_2529_1"
    ], page .thai620⟩]

/-- The words of a name in lower case: what stands between the characters that are neither letters
nor digits of ASCII nor full stops. -/
def nameWords : List Char → List (List Char)
  | [] => [[]]
  | c :: cs =>
    if c.isAlphanum ∨ c = '.' then
      match nameWords cs with
      | [] => [[c.toLower]]
      | w :: ws => (c.toLower :: w) :: ws
    else [] :: nameWords cs

/-- A name in its one form: its words with `_` between them. -/
def plainName (name : String) : String :=
  "_".intercalate (((nameWords name.toList).filter (· ≠ [])).map String.ofList)

/-- The encoding of a name, if there is one. -/
def ofName? (name : String) : Option Charset :=
  let plain := plainName name
  let dotless := String.ofList (plain.toList.map fun c => if c = '.' then '_' else c)
  ((known.find? (·.others.contains plain)) <|> (known.find? (·.others.contains dotless)) <|>
    (known.find? (·.name == plain))).map (·.charset)

end LoadDispatch.Text.Charset
