import LoadDispatch.Main
import LoadDispatch.Pool.Checks
import LoadDispatch.Pool.Operation
import LoadDispatch.Proofs.Attempt.Calls
import LoadDispatch.Proofs.Command.Outcome
import LoadDispatch.Proofs.Http.Address
import LoadDispatch.Proofs.Http.JobAnswers
import LoadDispatch.Proofs.Http.PathAnswers
import LoadDispatch.Proofs.Load.Conservation
import LoadDispatch.Proofs.Load.Scheduling
import LoadDispatch.Proofs.Pool.Overlap
import LoadDispatch.Proofs.Pool.Placement
import LoadDispatch.Proofs.Pool.QueryOrder
import LoadDispatch.Proofs.Pool.Retry
import LoadDispatch.Proofs.Settings.Endpoints
import LoadDispatch.Rehearsal.Server
