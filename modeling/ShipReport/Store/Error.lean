/-!
# Errors of the store

What goes wrong when stored data are read or written: a failure of the database, and the causes that
the rest of the library distinguishes.
-/

namespace ShipReport.Store

/-- A failure as the database reports it. -/
inductive Failure where
  /-- A statement failed, with the engine's message. -/
  | engine (message : String)
  /-- A query that needs a row found none. -/
  | noRows
  /-- A value could not be passed in or read out. -/
  | access (message : String)
deriving Repr, DecidableEq

/-- The text of a failure. -/
def Failure.message : Failure → String
  | .engine m => m
  | .noRows => "Query returned no rows"
  | .access m => m

/-- Why a request to the store failed. -/
inductive StoreError where
  | notFound (entity id : String)
  | lock (message : String)
  | transaction (message : String)
  | query (message : String)
  | unique (message : String)
  | foreignKey (message : String)
  | fieldValue (field message : String)
  | other (message : String)
deriving Repr, DecidableEq

namespace StoreError

def message : StoreError → String
  | .notFound entity id => "记录未找到: " ++ entity ++ " with id=" ++ id
  | .lock m => "数据库锁获取失败: " ++ m
  | .transaction m => "数据库事务失败: " ++ m
  | .query m => "数据库查询失败: " ++ m
  | .unique m => "唯一约束违反: " ++ m
  | .foreignKey m => "外键约束违反: " ++ m
  | .fieldValue field m => "字段值错误 (field=" ++ field ++ "): " ++ m
  | .other m => m

/-- Decides whether a word stands anywhere in a text. -/
def mentions (word : List Char) : List Char → Bool
  | [] => word.isEmpty
  | c :: cs => word.isPrefixOf (c :: cs) || mentions word cs

/-- The cause of a failure, told by the constraint that its message names. -/
def ofFailure : Failure → StoreError
  | .engine m =>
    if mentions "UNIQUE".toList m.toList then .unique m
    else if mentions "FOREIGN KEY".toList m.toList then .foreignKey m
    else .query m
  | .noRows => .notFound "row" "-"
  | .access m => .query m

end StoreError

end ShipReport.Store
