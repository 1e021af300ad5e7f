import ShipReport.Text.Blank
import ShipReport.Text.Case

/-!
# Kinds of reports and columns

The small vocabularies of ship reports: the roles and contents of columns, the kinds of templates,
the types of import, the categories of supplies and the states of a batch. Each has its words, and
most can be read from a text that a user typed.
-/

namespace ShipReport.Report

/-- Who fills a column: the crew, a formula whose result is shown, or a formula that only serves
other cells. -/
inductive ColumnRole where
  | input
  | computed
  | helper
deriving Repr, DecidableEq

def ColumnRole.word : ColumnRole → String
  | .input => "INPUT"
  | .computed => "COMPUTED"
  | .helper => "HIDDEN_HELPER"

/-- What a column holds. It decides how numbers are exported, and nothing else. -/
inductive ValueKind where
  | text
  | number
  | dateTime
deriving Repr, DecidableEq

def ValueKind.word : ValueKind → String
  | .text => "TEXT"
  | .number => "NUMBER"
  | .dateTime => "DATE_TIME"

def ValueKind.all : List ValueKind :=
  [.text, .number, .dateTime]

/-- A template for a single report, or one for many reports at once. -/
inductive TemplateKind where
  | standard
  | bulk
deriving Repr, DecidableEq

namespace TemplateKind

/-- The name of a template kind in file names and on the command line. -/
def name : TemplateKind → String
  | .standard => "standard"
  | .bulk => "bulk"

/-- The stored word for a template kind. -/
def word : TemplateKind → String
  | .standard => "STANDARD"
  | .bulk => "BULK"

/-- Bulk templates get staging tables before they are handed out. -/
def provisionsStaging : TemplateKind → Bool
  | .standard => false
  | .bulk => true

/-- Reads a template kind, standard when nothing is given; otherwise the message. -/
def parse (s : String) : Except String TemplateKind :=
  let name := Text.lowercase (Text.trim s)
  if name = "standard" ∨ name = "" then .ok .standard
  else if name = "bulk" then .ok .bulk
  else .error ("未知模板类型: " ++ name)

end TemplateKind

/-- The type of an import, which selects the procedure that carries it out. -/
inductive ReportType where
  | single
  | bulk
  | voyage
  | bunker
deriving Repr, DecidableEq

namespace ReportType

/-- The name of a report type, also as it is stored. -/
def name : ReportType → String
  | .single => "single"
  | .bulk => "bulk"
  | .voyage => "voyage"
  | .bunker => "bunker"

/-- The procedure that imports reports of the type. -/
def procedure : ReportType → String
  | .single => "import_single_report"
  | .bulk => "import_bulk_report"
  | .voyage => "import_voyage_report"
  | .bunker => "import_bunker_report"

/-- The types of import. -/
def all : List ReportType :=
  [.single, .bulk, .voyage, .bunker]

/-- The report type of exactly this name. -/
def ofName? (name : String) : Option ReportType :=
  all.find? (·.name == name)

/-- Reads a report type; otherwise the message. -/
def parse (s : String) : Except String ReportType :=
  let name := Text.lowercase (Text.trim s)
  match ofName? name with
  | some t => .ok t
  | none => .error ("未知导入类型: " ++ name)

end ReportType

/-- What a supply is used for. -/
inductive ItemCategory where
  | fuel
  | lubeOil
  | water
deriving Repr, DecidableEq

namespace ItemCategory

/-- The short word for a category. -/
def label : ItemCategory → String
  | .fuel => "FUEL"
  | .lubeOil => "LUBE"
  | .water => "WATER"

/-- The stored word for a category. -/
def word : ItemCategory → String
  | .fuel => "FUEL"
  | .lubeOil => "LUBE_OIL"
  | .water => "WATER"

/-- Reads a category by either of its words; otherwise the message. -/
def parse (s : String) : Except String ItemCategory :=
  let word := Text.uppercase (Text.trim s)
  if word = "FUEL" then .ok .fuel
  else if word = "LUBE" ∨ word = "LUBE_OIL" then .ok .lubeOil
  else if word = "WATER" then .ok .water
  else .error ("未知物料类别: " ++ word)

end ItemCategory

/-- The state of an uploaded batch: read, imported, or failed at its last import. -/
inductive BatchStatus where
  | parsed
  | imported
  | failed
deriving Repr, DecidableEq

namespace BatchStatus

def word : BatchStatus → String
  | .parsed => "PARSED"
  | .imported => "IMPORTED"
  | .failed => "FAILED"

/-- The states of a batch. -/
def all : List BatchStatus :=
  [.parsed, .imported, .failed]

/-- The state of exactly this word. -/
def ofWord? (word : String) : Option BatchStatus :=
  all.find? (·.word == word)

/-- Reads a state; otherwise the message. -/
def parse (s : String) : Except String BatchStatus :=
  let word := Text.trim s
  match ofWord? word with
  | some b => .ok b
  | none => .error ("未知批次状态: " ++ word)

end BatchStatus

end ShipReport.Report
