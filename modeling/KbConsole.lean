import KbConsole.Main
import KbConsole.Proofs.Config
import KbConsole.Proofs.Dispatch.Accepted
import KbConsole.Proofs.Dispatch.AccountedParams
import KbConsole.Proofs.Dispatch.AgentTables
import KbConsole.Proofs.Dispatch.BaseUrls
import KbConsole.Proofs.Dispatch.Creation
import KbConsole.Proofs.Dispatch.Limits
import KbConsole.Proofs.Dispatch.Secrecy
import KbConsole.Proofs.Dispatch.UserSql
import KbConsole.Proofs.Measures
import KbConsole.Proofs.Request.DefaultIngestion
import KbConsole.Proofs.Request.IngestionJob
import KbConsole.Proofs.Request.WellFormed
import KbConsole.Proofs.Run.Address
import KbConsole.Proofs.Run.Consent
import KbConsole.Proofs.Run.Document
import KbConsole.Proofs.Run.DryRun
import KbConsole.Proofs.Server.Display
import KbConsole.Proofs.Server.Illegible
import KbConsole.Proofs.Server.MissingTable
import KbConsole.Proofs.Sql.Canonical
import KbConsole.Proofs.Sql.FilterLanguage
import KbConsole.Proofs.Sql.Finite
import KbConsole.Proofs.Sql.Integrity
import KbConsole.Proofs.Sql.Quoted
import KbConsole.Proofs.Sql.Restriction
import KbConsole.Proofs.Sql.Spelling
import KbConsole.Proofs.Sql.Strategy
import KbConsole.Proofs.Sql.Structured
