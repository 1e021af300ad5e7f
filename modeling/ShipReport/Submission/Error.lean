import ShipReport.Store.Error

/-!
# Errors of a submission

What goes wrong between the upload of a workbook and its import, and the messages for it. The
message of a failed procedure is the procedure's own.
-/

namespace ShipReport.Submission

/-- Why a submission failed. -/
inductive SubmissionError where
  | fileNotFound (path : String)
  | unsupportedFormat (extension : String)
  | fileUnreadable (reason : String)
  | workbookUnreadable (reason : String)
  | sheetUnreadable (sheet reason : String)
  | csv (reason : String)
  | batchNotFound (id : String)
  | batchAlreadyImported (id : String)
  | reportTypeInvalid (text : String)
  | procedureFailed (procedure message : String)
  | staging (table message : String)
  | settingsUnreadable (message : String)
  | store (error : Store.StoreError)
  | io (message : String)
  | other (message : String)
  /-- A date serial with more seconds than can be counted stops the reading. -/
  | dateOverflow
deriving Repr, DecidableEq

def SubmissionError.message : SubmissionError → String
  | .fileNotFound path => "文件不存在: " ++ path
  | .unsupportedFormat extension => "文件格式不支持: " ++ extension ++ "（仅支持 .xlsx）"
  | .fileUnreadable reason => "文件读取失败: " ++ reason
  | .workbookUnreadable reason => "Excel 解析失败: " ++ reason
  | .sheetUnreadable sheet reason => "工作表不可读 (sheet=" ++ sheet ++ "): " ++ reason
  | .csv reason => "CSV 写入失败: " ++ reason
  | .batchNotFound id => "批次不存在: " ++ id
  | .batchAlreadyImported id => "批次已导入，不可重复导入: " ++ id
  | .reportTypeInvalid text => "报表类型无效: " ++ text
  | .procedureFailed procedure message => "导入过程 " ++ procedure ++ " 执行失败: " ++ message
  | .staging table message => "staging 表处理失败 (table=" ++ table ++ "): " ++ message
  | .settingsUnreadable message => "配置读取失败: " ++ message
  | .store error => error.message
  | .io message => message
  | .other message => message
  | .dateOverflow => "date out of range"

end ShipReport.Submission
