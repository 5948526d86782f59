/-
Services. The source of a service has two sections, the request and the
response, with a delimiter line between them; without one it is all
request, and a second one is a fault whatever else the source holds. Each
section is a schema of its own, read for itself, with the line numbers of
the whole source.
-/
import MessageSchema.Schema.Builder

namespace MessageSchema

/-- The line between the two sections. -/
def serviceDelimiter : String := "---"

/-- Whether a line is the delimiter, blanks around it aside. -/
def isDelimiter (line : String) : Bool :=
  Text.trimmed line == serviceDelimiter

/-- Some lines of a source, with the number of the first. -/
structure SourceSection where
  firstLine : Nat
  lines : List String
deriving DecidableEq, Repr

/-- The lines of a section with their numbers. -/
def SourceSection.numbered (s : SourceSection) : List Text.NumberedLine :=
  Text.numberFrom s.firstLine s.lines

/-- The two sections of a service source. -/
structure ServiceSource where
  request : SourceSection
  response : SourceSection
deriving DecidableEq, Repr

namespace ServiceSource

/-- Splits lines at the first delimiter. -/
def ofLines (lines : List String) : Except LineError ServiceSource :=
  let request := lines.takeWhile fun line => !isDelimiter line
  match lines.dropWhile fun line => !isDelimiter line with
  | [] => .ok ⟨⟨1, request⟩, ⟨request.length + 1, []⟩⟩
  | _ :: response =>
    let first := request.length + 2
    match response.findIdx? isDelimiter with
    | some i => .error (.tooManyDelimiters (first + i))
    | none => .ok ⟨⟨1, request⟩, ⟨first, response⟩⟩

/-- Splits a source into its sections. -/
def ofText (text : String) : Except LineError ServiceSource :=
  ofLines (Text.lines text)

end ServiceSource

/-- A service: the schemas of its request and of its response. -/
structure Service where
  package : String
  name : String
  request : Schema
  response : Schema
deriving DecidableEq

namespace Service

/-- The service whose halves declare nothing. -/
def empty (package name : String) : Service where
  package
  name
  request := .empty ⟨package, name ++ "_Request", .request⟩
  response := .empty ⟨package, name ++ "_Response", .response⟩

/-- Reads the text of a service. A fault in the response comes with the
whole request, one in the request with an empty response, and a fault in
the division with nothing. -/
def ofText (config : Config) (package name text : String) :
    Except (Failure LineError Service) Service :=
  let service := empty package name
  match ServiceSource.ofText text with
  | .error e => .error (.fatal e)
  | .ok source =>
    match (Builder.start config service.request.metadata).feedAll source.request.numbered with
    | .error failure => .error (failure.map fun request => { service with request })
    | .ok request =>
      let service := { service with request }
      match (Builder.start config service.response.metadata).feedAll source.response.numbered with
      | .error failure => .error (failure.map fun response => { service with response })
      | .ok response => .ok { service with response }

end Service

end MessageSchema
