import MediaDepot.Text.Blank
import MediaDepot.Text.Case
import MediaDepot.Text.Printable
import MediaDepot.Text.Utf8
import MediaDepot.Digest.Md5
import MediaDepot.Number.Positional.Lemmas
import MediaDepot.Number.Shortest
import MediaDepot.Number.Integer
import MediaDepot.Json.Parser
import MediaDepot.Json.Printer
import MediaDepot.Url.Query
import MediaDepot.Url.Serve
import MediaDepot.Mime.Guess
import MediaDepot.CrossOrigin
import MediaDepot.Record
import MediaDepot.Http.Envelope
import MediaDepot.Stream
import MediaDepot.Config.Basic
import MediaDepot.Files.Tree
import MediaDepot.Settings
import MediaDepot.Registry
import MediaDepot.Uid.Draw
import MediaDepot.Records.Collection
import MediaDepot.Site.Basic
import MediaDepot.Handler.Local
import MediaDepot.Handler.Basic
import MediaDepot.Program
import MediaDepot.Http.App
import MediaDepot.Proofs.Identifiers
import MediaDepot.Proofs.Actions
import MediaDepot.Proofs.Clashes
import MediaDepot.Proofs.Races
import MediaDepot.Proofs.Requests
import MediaDepot.Proofs.RoundTrip
import MediaDepot.Proofs.Interchange
import MediaDepot.Proofs.Objects
import MediaDepot.Proofs.Settling
import MediaDepot.Proofs.Stranding
import MediaDepot.Proofs.ObjectKeys
import MediaDepot.Proofs.PublicTexts
import MediaDepot.Proofs.SharedKeys
import MediaDepot.Proofs.Sweeps
import MediaDepot.Proofs.Backlog
import MediaDepot.Proofs.Unresolved
import MediaDepot.Proofs.SignedLinks
import MediaDepot.Proofs.Agreement
import MediaDepot.Proofs.Revalidation
import MediaDepot.Proofs.Retries
import MediaDepot.Proofs.Provisioners
import MediaDepot.Proofs.HeadRequests
import MediaDepot.Proofs.Documents
import MediaDepot.Proofs.Envelopes
import MediaDepot.Proofs.RequestIds
import MediaDepot.Proofs.Discretion
import MediaDepot.Proofs.Variation
import MediaDepot.Proofs.ForeignOrigins
import MediaDepot.Proofs.FolderUploads
import MediaDepot.Proofs.BucketUploads
import MediaDepot.Proofs.BatchDeletion
import MediaDepot.Proofs.FileNames
import MediaDepot.Proofs.ConfigRefusals
import MediaDepot.Proofs.FolderDeletion
import MediaDepot.Proofs.Normalisation
import MediaDepot.Proofs.Startup
import MediaDepot.Proofs.UrlGrammar
import MediaDepot.Proofs.StrayBlanks
import MediaDepot.Proofs.FailedInits
import MediaDepot.Proofs.Managers
import MediaDepot.Proofs.Appointments
import MediaDepot.Proofs.Readers
import MediaDepot.Proofs.Spellings
