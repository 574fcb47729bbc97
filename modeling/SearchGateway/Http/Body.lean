import SearchGateway.Text.Utf8

/-!
# Message bodies that arrive in pieces

A body arrives as a list of chunks, after which the stream may break. Reading is bounded: it stops
at the first chunk that does not fit into what is left of the limit.
-/

namespace SearchGateway.Http

/-- The chunks of a body, and the fault that ends the stream if it breaks. -/
structure Body where
  chunks : List Bytes
  failure : Option String
deriving DecidableEq, Repr

/-- Why a body cannot be read. -/
inductive BodyError where
  | tooLong
  | broken (reason : String)
deriving DecidableEq, Repr

def BodyError.message : BodyError → String
  | .tooLong => "length limit exceeded"
  | .broken reason => reason

namespace Body

def empty : Body := ⟨[], none⟩

/-- A body that arrives at once. -/
def ofBytes (bytes : Bytes) : Body := ⟨[bytes], none⟩

/-- The bytes of the chunks in order, at most `left` of them. -/
def gather (failure : Option String) (left : Nat) : List Bytes → Except BodyError Bytes
  | [] =>
    match failure with
    | some reason => .error (.broken reason)
    | none => .ok []
  | chunk :: rest =>
    -- The chunk counts before a fault of the stream that comes behind it.
    if left < chunk.length then .error .tooLong
    else (gather failure (left - chunk.length) rest).map (chunk ++ ·)

/-- The whole body, if it is no longer than the limit and its stream does not break. -/
def read (limit : Nat) (body : Body) : Except BodyError Bytes :=
  gather body.failure limit body.chunks

end Body

end SearchGateway.Http
