import ShipReport.Calendar.Loose
import ShipReport.Csv.Reader
import ShipReport.Json.Catalog
import ShipReport.Json.Decoding
import ShipReport.Json.Document
import ShipReport.Json.Printer
import ShipReport.Json.Reader
import ShipReport.Json.Service
import ShipReport.Json.Submission
import ShipReport.Json.Template
import ShipReport.Json.Workbook
import ShipReport.Main
import ShipReport.Proofs.Catalog.NoteGroups
import ShipReport.Proofs.Csv.RoundTrip
import ShipReport.Proofs.Formula.Dependence
import ShipReport.Proofs.Formula.References
import ShipReport.Proofs.Formula.Unambiguous
import ShipReport.Proofs.Service.AllOrNothing
import ShipReport.Proofs.Service.BatchListing
import ShipReport.Proofs.Service.InterleavedUploads
import ShipReport.Proofs.Service.Interleaving
import ShipReport.Proofs.Service.Owner
import ShipReport.Proofs.Service.StagingStore
import ShipReport.Proofs.Service.StagingTables
import ShipReport.Proofs.Service.UploadAgreement
import ShipReport.Proofs.Store.ResolvedSettings
import ShipReport.Proofs.Submission.ExportRuns
import ShipReport.Proofs.Submission.HeaderNames
import ShipReport.Proofs.Submission.KeptRows
import ShipReport.Proofs.Template.Contract
import ShipReport.Proofs.Template.Locality
import ShipReport.Proofs.Template.LookupLayout
import ShipReport.Proofs.Template.Queries
import ShipReport.Proofs.Template.UnknownKeys
import ShipReport.Proofs.Template.VoyageId
import ShipReport.Proofs.Template.VoyageKeys
import ShipReport.Proofs.Xlsx.CachedResults
import ShipReport.Service.Identifier
import ShipReport.Service.Requests
import ShipReport.Store.Batches
import ShipReport.Store.Procedures
import ShipReport.Store.ReferenceData
import ShipReport.Store.Settings
import ShipReport.Submission.Export
import ShipReport.Submission.Staging
import ShipReport.Template.Build
import ShipReport.Xlsx.Reading
