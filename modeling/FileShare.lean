import FileShare.Accounts
import FileShare.Accounts.Conflict
import FileShare.Body
import FileShare.Environment
import FileShare.Http
import FileShare.Log
import FileShare.Matcher
import FileShare.Nodes
import FileShare.Operation
import FileShare.Pattern.Match
import FileShare.Query
import FileShare.Settings
import FileShare.Snapshot
import FileShare.Proofs.BodyRules
import FileShare.Proofs.Http.RequestIds
import FileShare.Proofs.LoadedVariables
import FileShare.Proofs.LogLines
import FileShare.Proofs.Runs.AccountForms
import FileShare.Proofs.Runs.Authentication
import FileShare.Proofs.Runs.Authorization
import FileShare.Proofs.Runs.Commuting
import FileShare.Proofs.Runs.Contents
import FileShare.Proofs.Runs.Deletion
import FileShare.Proofs.Runs.Duplicates
import FileShare.Proofs.Runs.Grants
import FileShare.Proofs.Runs.KeySecrecy
import FileShare.Proofs.Runs.Newest
import FileShare.Proofs.Runs.Removal
import FileShare.Proofs.Runs.Revocation
import FileShare.Proofs.Runs.Scans
import FileShare.Proofs.Runs.WriteBack
import FileShare.Proofs.Search.Batches
import FileShare.Proofs.Search.WrittenValues
