import DevConsole.Entries
import DevConsole.Net.Client

/-!
# Clients that do not reach out

`Table` answers queries from a list made in advance: the answers under the key of a query are used
up in order, the last one stays. Answers under `*` serve the queries that have none of their own.
`Offline` refuses every query; a `Standin` is one of the two.
-/

namespace DevConsole.Net

/-- The key that a query is answered under. -/
def Query.key : Query → String
  | .price symbol => "price:" ++ symbol
  | .rate source target => "rate:" ++ source ++ ":" ++ target
  | .whois domain => "whois:" ++ domain
  | .address => "ip"
  | .weather city => "weather:" ++ city
  | .ping url => "ping:" ++ url
  | .fetch url => "fetch:" ++ url

/-- Answers under keys. A list of answers is never empty when it counts. -/
structure Table where
  answers : Entries (List (Except Error Reply)) := []

namespace Table

/-- The error for a query without an answer. -/
def missing : Error := .network "offline"

/-- The first answer, and those that are left after it. -/
def take : List (Except Error Reply) → Except Error Reply × List (Except Error Reply)
  | [] => (.error missing, [])
  | [last] => (last, [last])
  | next :: rest => (next, rest)

/-- The key that serves a query: its own or `*`. -/
def serving (t : Table) (q : Query) : String := if t.answers.contains q.key then q.key else "*"

def ask (t : Table) (q : Query) : Except Error Reply × Table :=
  let key := t.serving q
  match t.answers.find? key with
  | none => (.error missing, t)
  | some answers =>
    let (answer, rest) := take answers
    (answer, ⟨t.answers.insert key rest⟩)

instance : Client Table := ⟨ask⟩

/-- The table with the answers of another one in place of its own under the same keys. -/
def override (t : Table) (answers : List (String × List (Except Error Reply))) : Table :=
  ⟨answers.foldl (fun es a => es.insert a.1 a.2) t.answers⟩

end Table

/-- A client without access to any network. -/
structure Offline where

/-- The error for every query without network access. -/
def Offline.refusal : Error := .network "network access is not available in this build"

instance : Client Offline := ⟨fun client _ => (.error Offline.refusal, client)⟩

inductive Standin where
  | table (t : Table)
  | offline

instance : Client Standin where
  ask
    | .table t, q => let (answer, t) := t.ask q; (answer, .table t)
    | .offline, _ => (.error Offline.refusal, .offline)

end DevConsole.Net
