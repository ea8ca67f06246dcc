/-
Patterns of hosts and paths.

An exact name of a host holds no marker; `*` and the empty text stand for every host;
`*.` and a suffix stand for the hosts one label longer than the suffix. A trailing marker
makes a path stand for every path below it; the marker alone stands for every path; it may
stand nowhere else.
-/
import IngressRouting.Rejection
import IngressRouting.Text.Quoted

namespace IngressRouting

/-! ## Hosts -/

/-- The hosts that a text stands for. -/
inductive HostPattern
  | any
  /-- The suffix keeps its leading dot. -/
  | wildcard (suffix : String)
  | exact (name : String)
  deriving DecidableEq, Repr

namespace HostPattern

/-- The text that stands for every host. -/
def anyText : String := "*"

/-- Reads a host text. A marker may stand at its start only, before a dot. -/
def parse (host : String) : Except Fault HostPattern :=
  if host = "" ∨ host = anyText then .ok .any
  else match host.toList with
    | '*' :: '.' :: c :: r =>
      if '*' ∈ c :: r then .error (.wildcardHost host)
      else .ok (.wildcard (String.ofList ('.' :: c :: r)))
    | cs => if '*' ∈ cs then .error (.wildcardHost host) else .ok (.exact host)

/-- Puts a backslash before each dot, so that a regular expression matches the
dot itself. -/
def escapeDots : List Char → List Char
  | [] => []
  | c :: cs => if c = '.' then '\\' :: '.' :: escapeDots cs else c :: escapeDots cs

/-- The call that tests a host; none where every host passes. -/
def render : HostPattern → Option String
  | any => none
  | wildcard suffix =>
    some ("req_host_regmatch(\"(?i)^[^.]+" ++ String.ofList (escapeDots suffix.toList) ++ "\")")
  | exact name => some ("req_host_in(" ++ Quoted.literal name ++ ")")

/-- Whether a host text stands for more than one host. The text for every host
counts, so it ranks after every suffix. -/
def isWildcardText (host : String) : Bool :=
  host == anyText || "*.".toList.isPrefixOf host.toList

end HostPattern

/-! ## Paths -/

/-- The paths that a text stands for. -/
inductive PathPattern
  | any
  /-- The path above all those matched, without its marker. -/
  | below (path : String)
  | exact (path : String)
  deriving DecidableEq, Repr

namespace PathPattern

/-- The path without a trailing marker, and whether it had one. -/
def splitMarker (cs : List Char) : List Char × Bool :=
  if cs.getLast? = some '*' then (cs.dropLast, true) else (cs, false)

/-- Reads a path text. A marker may stand at its end only. -/
def parse (path : String) : Except Fault PathPattern :=
  if path = "" then .error .emptyPath
  else if path = "*" then .ok .any
  else
    let (body, marked) := splitMarker path.toList
    if '*' ∈ body ∨ body = [] then .error (.illegalPath path)
    else if marked then .ok (.below (String.ofList body))
    else .ok (.exact path)

/-- The call that tests a path; none where every path passes. -/
def render : PathPattern → Option String
  | any => none
  | below path => some ("req_path_element_prefix_in(" ++ Quoted.literal path ++ ", false)")
  | exact path => some ("req_path_in(" ++ Quoted.literal path ++ ", false)")

/-- Whether a path text stands for more than one path. -/
def isMarkedText (path : String) : Bool := path.toList.getLast? == some '*'

/-- The text for every path below this one. -/
def markText (path : String) : String := path ++ "*"

end PathPattern

end IngressRouting
