import DocSearch.Json.Reader
import DocSearch.Page

/-!
# Answers of a cluster

What the status of an answer means, and how its body is read: the list of hits, each with its
document, and the number of all matches, which older clusters give as a number and newer ones
inside an object.  A member that counts may stand there once only.

A body is a tree, and of the tree only what counts is read as documents: the names of members,
the number of all matches and the documents of the hits.  Whatever else is there has to be
spelled correctly and is passed over.

## Main definitions

* `reasonOf?`, `statusText`, `isSuccess` — the status codes of answers.
* `Reply`, `Reply.decode` — what an answer says.
* `Reply.hits` — the hits of an answer; each must have its document.
* `hitsOfBody` — the hits of the bytes of an answer.

## References

`SearchResponseBody`, `HitsEnvelope`, `TotalHits` and `Hit`, and `execute` of `ElasticExecutor`
behind the answer.
-/

namespace DocSearch.Cluster

/-! ### Status -/

/-- The phrases for status codes. -/
def reasons : List (Nat × String) :=
  [(100, "Continue"), (101, "Switching Protocols"), (102, "Processing"), (200, "OK"),
    (201, "Created"), (202, "Accepted"), (203, "Non Authoritative Information"),
    (204, "No Content"), (205, "Reset Content"), (206, "Partial Content"),
    (207, "Multi-Status"), (208, "Already Reported"), (226, "IM Used"),
    (300, "Multiple Choices"), (301, "Moved Permanently"), (302, "Found"), (303, "See Other"),
    (304, "Not Modified"), (305, "Use Proxy"), (307, "Temporary Redirect"),
    (308, "Permanent Redirect"), (400, "Bad Request"), (401, "Unauthorized"),
    (402, "Payment Required"), (403, "Forbidden"), (404, "Not Found"),
    (405, "Method Not Allowed"), (406, "Not Acceptable"),
    (407, "Proxy Authentication Required"), (408, "Request Timeout"), (409, "Conflict"),
    (410, "Gone"), (411, "Length Required"), (412, "Precondition Failed"),
    (413, "Payload Too Large"), (414, "URI Too Long"), (415, "Unsupported Media Type"),
    (416, "Range Not Satisfiable"), (417, "Expectation Failed"), (418, "I'm a teapot"),
    (421, "Misdirected Request"), (422, "Unprocessable Entity"), (423, "Locked"),
    (424, "Failed Dependency"), (426, "Upgrade Required"), (428, "Precondition Required"),
    (429, "Too Many Requests"), (431, "Request Header Fields Too Large"),
    (451, "Unavailable For Legal Reasons"), (500, "Internal Server Error"),
    (501, "Not Implemented"), (502, "Bad Gateway"), (503, "Service Unavailable"),
    (504, "Gateway Timeout"), (505, "HTTP Version Not Supported"),
    (506, "Variant Also Negotiates"), (507, "Insufficient Storage"), (508, "Loop Detected"),
    (510, "Not Extended"), (511, "Network Authentication Required")]

/-- The phrase for a status. -/
def reasonOf? (status : Nat) : Option String := reasons.lookup status

/-- A status with its phrase. -/
def statusText (status : Nat) : String :=
  natString status ++ " " ++ (reasonOf? status).getD "<unknown status code>"

/-- The status codes of success. -/
def isSuccess (status : Nat) : Bool := 200 ≤ status && status < 300

/-! ### Body -/

/-- The member of a name, if there is one; there must not be two. -/
def onlyMember (name : String) (ms : List (String × α)) : Except DecodeError (Option α) :=
  match ms.filter (·.1 == name) with
  | [] => .ok none
  | [m] => .ok (some m.2)
  | _ => .error (.duplicateField name)

/-- What a part of an answer is, as far as a message tells; nothing if that cannot be read. -/
def found? : Json.Tree → Option Found
  | .null => some .null
  | .bool b => some (.bool b)
  | .numeral cs => (Json.numeral? cs).map fun n => (Json.number n).found
  | .string bytes => (Json.text? bytes).map .text
  | .array _ => some .sequence
  | .object _ => some .map

/-- A reader of parts of an answer. -/
abbrev PartReader (α : Type) := Json.Tree → Except ResultFault α

/-- The fault of a part that should be something else. -/
def unfit (expected : String) : PartReader α := fun t =>
  match found? t with
  | none => .error .notADocument
  | some found => .error (.unreadable (.invalidType found expected))

/-- The members of a part, under their names. -/
def namedMembers? : List (List UInt8 × Json.Tree) → Option (List (String × Json.Tree))
  | [] => some []
  | m :: ms =>
    match Json.text? m.1 with
    | none => none
    | some name => (namedMembers? ms).map ((name, m.2) :: ·)

/-- The member of a name in a part, if there is one; all names must be texts. -/
def memberOf (name : String) (ms : List (List UInt8 × Json.Tree)) :
    Except ResultFault (Option Json.Tree) :=
  match namedMembers? ms with
  | none => .error .notADocument
  | some named => (onlyMember name named).mapError .unreadable

/-- What an answer says. -/
structure Reply where
  /-- The number of all matches. -/
  total : Option Nat
  /-- The documents of the hits, where there is one. -/
  sources : List (Option Json)

namespace Reply

/-- The number of all matches as a number. -/
def bareCount : Decoder Nat := fun j =>
  (Decoder.nat64 j).mapError fun _ => .noVariant "TotalHits"

/-- The number of all matches in a document: a number, or an object with that number. -/
def countOf : Decoder Nat
  | .object ms =>
    match onlyMember "value" ms with
    | .ok (some j) => bareCount j
    | _ => .error (.noVariant "TotalHits")
  | j => bareCount j

/-- The number of arrays and objects that may stand inside each other in the number of all
matches, which stands inside the answer and the part about its hits. -/
def totalDepth : Nat := Json.maxDepth - 2

/-- The number of arrays and objects that may stand inside each other in the document of a hit,
which stands inside the answer, the part about its hits, the list and the hit. -/
def sourceDepth : Nat := Json.maxDepth - 4

/-- The number of all matches, where the absent value stands for none. -/
def decodeTotal : PartReader (Option Nat)
  | .null => .ok none
  | t =>
    match t.json? totalDepth with
    | none => .error .notADocument
    | some j => ((countOf j).map some).mapError .unreadable

/-- A document, where the absent value stands for none. -/
def sourceOf : PartReader (Option Json)
  | .null => .ok none
  | t =>
    match t.json? sourceDepth with
    | none => .error .notADocument
    | some j => .ok (some j.settle)

/-- The document of a hit. -/
def decodeHit : PartReader (Option Json)
  | .object ms =>
    match memberOf "_source" ms with
    | .error fault => .error fault
    | .ok none => .ok none
    | .ok (some t) => sourceOf t
  | .array [t] => sourceOf t
  | .array [] => .error (.unreadable (.invalidLength 0 "struct Hit with 1 element"))
  | .array _ => .error .notADocument
  | t => unfit "struct Hit" t

/-- The documents of a list of hits, up to the first that cannot be read. -/
def decodeItems : List Json.Tree → Except ResultFault (List (Option Json))
  | [] => .ok []
  | t :: ts =>
    match decodeHit t with
    | .error fault => .error fault
    | .ok source =>
      match decodeItems ts with
      | .error fault => .error fault
      | .ok sources => .ok (source :: sources)

/-- The documents of the hits. -/
def decodeList : PartReader (List (Option Json))
  | .array ts => decodeItems ts
  | t => unfit "a sequence" t

/-- The part of an answer about its hits, from its number and its list. -/
def ofParts (total hits : Option Json.Tree) : Except ResultFault Reply :=
  match (total.map decodeTotal).getD (.ok none) with
  | .error fault => .error fault
  | .ok total =>
    match (hits.map decodeList).getD (.ok []) with
    | .error fault => .error fault
    | .ok sources => .ok ⟨total, sources⟩

/-- The part of an answer about its hits. -/
def decodeHits : PartReader Reply
  | .object ms =>
    match memberOf "total" ms with
    | .error fault => .error fault
    | .ok total =>
      match memberOf "hits" ms with
      | .error fault => .error fault
      | .ok hits => ofParts total hits
  | .array ts => if 2 < ts.length then .error .notADocument else ofParts ts[0]? ts[1]?
  | t => unfit "struct HitsEnvelope" t

/-- An answer. -/
def decode : PartReader Reply
  | .object ms =>
    match memberOf "hits" ms with
    | .error fault => .error fault
    | .ok none => .error (.unreadable (.missingField "hits"))
    | .ok (some t) => decodeHits t
  | .array [t] => decodeHits t
  | .array [] => .error (.unreadable (.invalidLength 0 "struct SearchResponseBody with 1 element"))
  | .array _ => .error .notADocument
  | t => unfit "struct SearchResponseBody" t

/-- The documents of hits, the first of which stands at `position`. -/
def documents (position : Nat) : List (Option Json) → Outcome (List Json)
  | [] => .ok []
  | none :: _ => .error (.malformedResult position .sourceMissing)
  | some j :: js =>
    match documents (position + 1) js with
    | .error e => .error e
    | .ok ds => .ok (j :: ds)

/-- The hits of an answer. -/
def hits (r : Reply) : Outcome Hits :=
  match documents 0 r.sources with
  | .error e => .error e
  | .ok ds => .ok ⟨ds, r.total.getD ds.length⟩

end Reply

/-- The hits of the bytes of an answer. -/
def hitsOfBody (body : List UInt8) : Outcome Hits :=
  match Json.tree? body with
  | none => .error (.malformedResult 0 .notADocument)
  | some t =>
    match Reply.decode t with
    | .error fault => .error (.malformedResult 0 fault)
    | .ok r => r.hits

end DocSearch.Cluster
