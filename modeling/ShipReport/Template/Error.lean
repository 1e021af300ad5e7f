import ShipReport.Store.Error

/-!
# Errors of templates

What goes wrong when a template is made, and the messages for it. Towards the outside an error names
the vessel whose template it was.
-/

namespace ShipReport.Template

/-- Why a template could not be made. -/
inductive TemplateError where
  | failedFor (vesselId : Int) (reason : String)
  | unwritable (reason : String)
  | staging (reason : String)
  | store (error : Store.StoreError)
  | other (message : String)
deriving Repr, DecidableEq

namespace TemplateError

def message : TemplateError → String
  | .failedFor vesselId reason => "船舶 " ++ toString vesselId ++ " 模板生成失败: " ++ reason
  | .unwritable reason => "xlsx 序列化失败: " ++ reason
  | .staging reason => "staging 表预建失败: " ++ reason
  | .store error => error.message
  | .other message => message

/-- The error with the vessel named; an error that names one already stays as it is. -/
def forVessel (e : TemplateError) (vesselId : Int) : TemplateError :=
  match e with
  | .failedFor _ _ => e
  | e => .failedFor vesselId e.message

end TemplateError

end ShipReport.Template
