import CredStore.Error
import CredStore.Inspect
import CredStore.Name.Segments

/-!
# Credential names

A name is a list of segments, none of them empty and none with a `/`. It keeps its path: `/` before
each segment, and `/` alone for the root. Reading a path gives the segments back, so a name and its
path say the same, and names are compared by their paths.
-/

namespace CredStore

/-- The name of a credential. -/
structure Name where
  segments : List String
  path : String
  wellFormed : ∀ s ∈ segments, IsSegment s
  rendered : path = Name.render segments

namespace Name

/-- Why `s` is no segment. -/
def segmentFault (s : String) : Refusal :=
  if s = "" then .emptySegment else .slashInSegment s

/-- Why `segments` are not all segments: the fault of the first that is not one. -/
def firstFault (segments : List String) : Refusal :=
  segmentFault ((segments.find? fun s => !decide (IsSegment s)).getD "")

/-- The name with these segments. -/
def ofWellFormed (segments : List String) (h : ∀ s ∈ segments, IsSegment s) : Name :=
  ⟨segments, render segments, h, rfl⟩

/-- The name without segments. -/
def root : Name where
  segments := []
  path := "/"
  wellFormed := by simp
  rendered := rfl

/-- The name with these segments; the first bad one is the cause of a refusal. -/
def ofSegments (segments : List String) : Outcome Name :=
  if h : ∀ s ∈ segments, IsSegment s then .ok (ofWellFormed segments h)
  else refuse (firstFault segments)

/-- The name one level below `n`. -/
def child (n : Name) (segment : String) : Outcome Name :=
  if h : IsSegment segment then
    .ok <| ofWellFormed (n.segments ++ [segment]) <| by
      intro s hs
      rcases List.mem_append.1 hs with hs | hs
      · exact n.wellFormed s hs
      · exact List.mem_singleton.1 hs ▸ h
  else refuse (segmentFault segment)

/-- Reads a path. The leading `/` may be missing; no piece may be empty. -/
def parse (path : String) : Outcome Name :=
  (ofSegments (pieces (relative path.toList))).mapError fun _ =>
    .invalidArgument (.malformedName path)

/-- The last segment; the root has none. -/
def last? (n : Name) : Option String :=
  n.segments.getLast?

/-- `n` has no segments. -/
def isRoot (n : Name) : Bool :=
  n.segments.isEmpty

/-! ## Comparison -/

instance : BEq Name where
  beq n m := n.path == m.path

/-- A name is its segments. -/
theorem eq_of_segments {n m : Name} (h : n.segments = m.segments) : n = m := by
  obtain ⟨ss, p, hs, rfl⟩ := n
  obtain ⟨ts, q, ht, rfl⟩ := m
  subst h
  rfl

/-- A name is its path. -/
theorem path_inj {n m : Name} : n.path = m.path ↔ n.segments = m.segments := by
  rw [n.rendered, m.rendered]
  exact render_inj n.wellFormed m.wellFormed

instance : LawfulBEq Name where
  rfl {n} := beq_self_eq_true n.path
  eq_of_beq h := eq_of_segments (path_inj.1 (eq_of_beq h))

instance : DecidableEq Name := instDecidableEqOfLawfulBEq

/-! ## Documents -/

/-- Reads a name from its path in a document. -/
def decoder : Decoder Name :=
  Decoder.text.ruled parse

def toJson (n : Name) : Json :=
  .text n.path

def inspect (n : Name) : Inspect :=
  .wrap "CredentialName" (.text n.path)

end Name

end CredStore
