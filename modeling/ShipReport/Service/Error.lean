import ShipReport.Submission.Error
import ShipReport.Template.Error

/-!
# Errors of the service

What a caller of the service is told. Errors of the store, of templates and of submissions are
sorted by what the caller can do about them; the message of a failed procedure is handed on as it
is.
-/

namespace ShipReport.Service

open Store (StoreError)
open Submission (SubmissionError)
open Template (TemplateError)

/-- What a caller is told. -/
inductive ServiceError where
  | invalidInput (detail : String)
  | notFound (detail : String)
  | tokenMismatch (detail : String)
  | ruleViolated (detail : String)
  | templateFailed (vesselId : Int) (reason : String)
  | importFailed (detail : String)
  | procedureFailed (procedure message : String)
  | settings (detail : String)
  | database (detail : String)
  | connection (detail : String)
  | transaction (detail : String)
  | internal (detail : String)
  | other (message : String)
  /-- A date in a workbook has more seconds than can be counted. -/
  | dateOverflow
deriving Repr, DecidableEq

namespace ServiceError

def message : ServiceError → String
  | .invalidInput detail => "无效输入: " ++ detail
  | .notFound detail => "资源未找到: " ++ detail
  | .tokenMismatch detail => "上传凭据不匹配: " ++ detail
  | .ruleViolated detail => "业务规则违反: " ++ detail
  | .templateFailed vesselId reason =>
    "模板生成失败 (vessel_id=" ++ toString vesselId ++ "): " ++ reason
  | .importFailed detail => "文件导入失败: " ++ detail
  | .procedureFailed _ message => message
  | .settings detail => "配置读取失败: " ++ detail
  | .database detail => "数据库错误: " ++ detail
  | .connection detail => "数据库连接失败: " ++ detail
  | .transaction detail => "数据库事务失败: " ++ detail
  | .internal detail => "内部错误: " ++ detail
  | .other message => message
  | .dateOverflow => SubmissionError.message .dateOverflow

def ofStore : StoreError → ServiceError
  | .notFound entity id => .notFound (entity ++ "(id=" ++ id ++ ")不存在")
  | .lock m => .connection ("数据库锁获取失败: " ++ m)
  | .transaction m => .transaction m
  | .query m => .database m
  | .unique m => .ruleViolated ("唯一约束违反: " ++ m)
  | .foreignKey m => .ruleViolated ("外键约束违反: " ++ m)
  | .fieldValue field m => .invalidInput ("字段" ++ field ++ "错误: " ++ m)
  | .other m => .other m

/-- An error of making a template. -/
def ofTemplate : TemplateError → ServiceError
  | .failedFor vesselId reason => .templateFailed vesselId reason
  | e => .internal e.message

def ofSubmission : SubmissionError → ServiceError
  | .procedureFailed procedure message => .procedureFailed procedure message
  | .batchNotFound id => .notFound ("批次不存在: " ++ id)
  | .batchAlreadyImported id => .ruleViolated ("批次已导入: " ++ id)
  | .reportTypeInvalid text => .invalidInput ("报表类型无效: " ++ text)
  | .store e => ofStore e
  | .dateOverflow => .dateOverflow
  | e => .importFailed e.message

/-- An error of reading the settings. -/
def ofSettings (message : String) : ServiceError :=
  .settings message

end ServiceError

end ShipReport.Service
