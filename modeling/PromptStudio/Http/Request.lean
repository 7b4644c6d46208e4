import PromptStudio.Http.Url

/-!
# Requests

What arrives from outside: a method, a path, a query, headers and a body. A path is cut into its steps after
percent-decoding; names of headers are not case-sensitive.
-/

namespace PromptStudio

/-- A request from outside. -/
structure HttpRequest where
  method : Text
  path : List Char
  query : List Char
  headers : List (Text × Text)
  body : Bytes

namespace HttpRequest

def methodName (method : Text) : Text :=
  method.map fun p => match p with
    | .char c => .char c.toUpper
    | p => p

/-- The request for a target, which is an address or a path on this side with a query. Headers are ASCII. -/
def ofTarget (method target : Text) (headers : List (Text × Text)) (body : Bytes) : Except Fault HttpRequest := do
  let url ← Url.ofText target
  if !headers.all fun h => (h.1 ++ h.2).all (·.toNat < 0x80) then throw .unencodableText
  let path := if url.isAbsolute then url.rootPath else Url.plainPath url.rootPath
  return { method := methodName method, path := Percent.decode path, query := url.query.getD [], headers, body }

/-- The value of a header; of a repeated one, the first. -/
def header? (r : HttpRequest) (name : String) : Option Text :=
  (r.headers.find? fun h => h.1.map Lowercase.point == Text.ofString name).map (·.2)

/-- A text of a query, decoded: a plus sign is a blank. -/
def queryText (cs : List Char) : String :=
  String.ofList (Percent.decode (cs.map fun c => if c = '+' then ' ' else c))

/-- The pairs of the query; a name that stands alone has an empty value. -/
def parameters (r : HttpRequest) : List (String × String) :=
  ((r.query.splitOn '&').filter (!·.isEmpty)).map fun part =>
    (queryText (part.takeWhile (· != '=')), queryText ((part.dropWhile (· != '=')).drop 1))

/-- The value of a parameter; of a repeated one, the last. -/
def parameter? (r : HttpRequest) (name : String) : Option String :=
  (r.parameters.reverse.find? (·.1 == name)).map (·.2)

end HttpRequest

end PromptStudio
