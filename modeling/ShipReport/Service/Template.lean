import ShipReport.Service.Staging
import ShipReport.Store.ReferenceData
import ShipReport.Template.Build
import ShipReport.Template.Error
import ShipReport.Xlsx.Book

/-!
# Making templates

The template of a vessel is built from its catalogue and written. For a bulk template the staging
tables of the vessel are made before it is handed out. Any failure names the vessel.
-/

namespace ShipReport.Service

open Report (Rules Layout TemplateKind)
open Store (Database)
open Template (TemplateError UploadToken)

/-- A finished template. -/
structure MadeTemplate where
  vesselId : Int
  kind : TemplateKind
  fileName : String
  file : List Xlsx.WrittenSheet
  token : UploadToken
  stagingTables : List String
  unprotected : List (String × Workbook.ProtectionError)

/-- The staging tables that a kind of template needs, if they can be made at all. -/
def provisionFor (kind : TemplateKind) (canProvision : Bool) (shortCode : String) :
    Work Database TemplateError (List String) :=
  if !kind.provisionsStaging then return []
  else if !canProvision then throw (.staging "未配置 staging 预建器")
  else (provisionVessel shortCode).orError fun e => .staging e.message

/-- Makes the template of a vessel. -/
def assembleTemplate (kind : TemplateKind) (rules : Rules) (layout : Layout) (canProvision : Bool)
    (token : UploadToken) : Work Database TemplateError MadeTemplate := do
  let catalog ← .look fun db =>
    (db.catalog token.vesselId rules.noteSlotLimit).mapError TemplateError.store
  let built := Template.build catalog kind rules layout token
  let file ← .look fun _ =>
    (Xlsx.render built.workbook).mapError fun e => TemplateError.unwritable e.message
  let stagingTables ← provisionFor kind canProvision catalog.vessel.shortCode
  return {
    vesselId := token.vesselId
    kind
    fileName := Template.fileName catalog.vessel.shortCode kind
    file, token, stagingTables
    unprotected := built.unprotected }

/-- Makes the template of the vessel that a token is for; a failure names the vessel. -/
def makeTemplate (kind : TemplateKind) (rules : Rules) (layout : Layout) (canProvision : Bool)
    (token : UploadToken) : Work Database TemplateError MadeTemplate :=
  (assembleTemplate kind rules layout canProvision token).orError (·.forVessel token.vesselId)

end ShipReport.Service
