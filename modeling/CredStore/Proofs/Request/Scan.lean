import CredStore.Proofs.Request.Fill

/-!
# How templates are scanned and filled

`Scans t ps` says, without the reader, which pieces a text has: a placeholder runs from the next `{`
to the first `}` after it, and a `{` that no `}` follows ends the scan. Every text has exactly one
scan (`scans_iff`). From it follow what a request refuses (`fillPieces_eq_error_iff`), what its path
is, and when the path tells the variables (`Scans.fills_inj`). The main statement is
`Request.path_exact`.
-/

namespace CredStore

namespace Template

open Text.Percent

/-! ## Scans -/

/-- The text is made of these pieces when it is scanned from left to right. -/
inductive Scans : List Char → List Piece → Prop
  | literal {s} : '\x7b' ∉ s → Scans s [.literal s]
  | unterminated {s rest} : '\x7b' ∉ s → '\x7d' ∉ rest →
    Scans (s ++ '\x7b' :: rest) [.literal s, .unterminated]
  | placeholder {s name rest ps} : '\x7b' ∉ s → '\x7d' ∉ name → Scans rest ps →
    Scans (s ++ '\x7b' :: (name ++ '\x7d' :: rest)) (.literal s :: .placeholder name :: ps)

/-- The character that ends what is being read, inside a placeholder or not. -/
def mark (inside : Bool) : Char :=
  if inside then '\x7d' else '\x7b'

theorem scan_append (inside : Bool) {s : List Char} (h : mark inside ∉ s)
    (rest seen : List Char) :
    scan (s ++ rest) inside seen = scan rest inside (s.reverse ++ seen) := by
  induction s generalizing seen with
  | nil => rfl
  | cons c s ih =>
    rw [List.mem_cons, not_or] at h
    have hread : scan (c :: (s ++ rest)) inside seen = scan (s ++ rest) inside (c :: seen) := by
      cases inside <;> exact if_neg (Ne.symm h.1)
    rw [List.cons_append, hread, ih h.2, List.reverse_cons, List.append_assoc]
    rfl

/-- The reader finds the pieces of a scan. -/
theorem Scans.scan_eq {t : List Char} {ps : List Piece} (h : Scans t ps) :
    scan t false [] = ps := by
  induction h with
  | @literal s hs =>
    have hscan := scan_append false hs [] []
    rw [List.append_nil, List.append_nil] at hscan
    rw [hscan, scan, List.reverse_reverse]
  | @unterminated s rest hs hrest =>
    have hscan := scan_append true hrest [] []
    rw [List.append_nil] at hscan
    rw [scan_append false hs, scan, if_pos rfl, hscan, scan, List.append_nil, List.reverse_reverse]
  | @placeholder s name rest ps hs hname _ ih =>
    rw [scan_append false hs, scan, if_pos rfl, scan_append true hname, scan, if_pos rfl, ih,
      List.append_nil, List.append_nil, List.reverse_reverse, List.reverse_reverse]

/-- Every text can be scanned. -/
theorem exists_scans (t : List Char) : ∃ ps, Scans t ps := by
  induction hn : t.length using Nat.strongRecOn generalizing t with
  | ind n ih =>
    by_cases hopen : '\x7b' ∈ t
    · obtain ⟨s, rest, rfl, hs⟩ := List.eq_append_cons_of_mem hopen
      by_cases hclose : '\x7d' ∈ rest
      · obtain ⟨name, rest, rfl, hname⟩ := List.eq_append_cons_of_mem hclose
        have hshort : rest.length < n := by
          rw [← hn]
          simp only [List.length_append, List.length_cons]
          omega
        obtain ⟨ps, hps⟩ := ih _ hshort rest rfl
        exact ⟨_, .placeholder hs hname hps⟩
      · exact ⟨_, .unterminated hs hclose⟩
    · exact ⟨_, .literal hopen⟩

/-- **Every text has exactly one scan**, and the reader finds it. -/
theorem scans_iff {template : String} {ps : List Piece} :
    Scans template.toList ps ↔ ps = pieces template := by
  refine ⟨fun h => h.scan_eq.symm, ?_⟩
  rintro rfl
  obtain ⟨ps, hps⟩ := exists_scans template.toList
  rw [pieces, hps.scan_eq]
  exact hps

/-! ## Refusals -/

/-- The names of the placeholders, in order. -/
def names : List Piece → List (List Char)
  | [] => []
  | .placeholder name :: ps => name :: names ps
  | _ :: ps => names ps

/-- What is met first: a placeholder without a variable, a `{` without a `}`, or, at the end, a
variable without a placeholder. -/
inductive Refused (template : String) (ps : List Piece) (vs : List String) : Refusal → Prop
  | missing {name} : (names ps)[vs.length]? = some name →
    Refused template ps vs
      (.missingVariable (String.ofList ('\x7b' :: name ++ ['\x7d'])) template)
  | unterminated : .unterminated ∈ ps → arity ps ≤ vs.length →
    Refused template ps vs (.unterminatedPlaceholder template)
  | tooMany : .unterminated ∉ ps → arity ps < vs.length →
    Refused template ps vs (.tooManyVariables template)

variable {template : String} {t cs : List Char} {ps : List Piece} {vs ws : List String}

theorem refused_literal {s : List Char} {why : Refusal} :
    Refused template (.literal s :: ps) vs why ↔ Refused template ps vs why := by
  constructor
  · rintro (hname | ⟨hmem, hlen⟩ | ⟨hmem, hlen⟩)
    · exact .missing hname
    · exact .unterminated (by simpa using hmem) hlen
    · exact .tooMany (by simpa using hmem) hlen
  · rintro (hname | ⟨hmem, hlen⟩ | ⟨hmem, hlen⟩)
    · exact .missing hname
    · exact .unterminated (by simpa using hmem) hlen
    · exact .tooMany (by simpa using hmem) hlen

theorem refused_placeholder {name : List Char} {v : String} {why : Refusal} :
    Refused template (.placeholder name :: ps) (v :: vs) why ↔ Refused template ps vs why := by
  constructor
  · rintro (hname | ⟨hmem, hlen⟩ | ⟨hmem, hlen⟩)
    · exact .missing hname
    · exact .unterminated (by simpa using hmem) (Nat.le_of_succ_le_succ hlen)
    · exact .tooMany (by simpa using hmem) (Nat.lt_of_succ_lt_succ hlen)
  · rintro (hname | ⟨hmem, hlen⟩ | ⟨hmem, hlen⟩)
    · exact .missing hname
    · exact .unterminated (by simpa using hmem) (Nat.succ_le_succ hlen)
    · exact .tooMany (by simpa using hmem) (Nat.succ_lt_succ hlen)

theorem refused_nil {why : Refusal} :
    Refused template [] vs why ↔ vs ≠ [] ∧ why = .tooManyVariables template := by
  constructor
  · rintro (hname | ⟨hmem, -⟩ | ⟨-, hlen⟩)
    · cases hname
    · cases hmem
    · exact ⟨List.ne_nil_of_length_pos hlen, rfl⟩
  · rintro ⟨hne, rfl⟩
    exact .tooMany List.not_mem_nil (List.length_pos_iff.2 hne)

theorem refused_unterminated {why : Refusal} :
    Refused template [.unterminated] vs why ↔ why = .unterminatedPlaceholder template := by
  constructor
  · rintro (hname | - | ⟨hmem, -⟩)
    · cases hname
    · rfl
    · exact absurd List.mem_cons_self hmem
  · rintro rfl
    exact .unterminated List.mem_cons_self (Nat.zero_le _)

theorem refused_missing {name : List Char} {why : Refusal} :
    Refused template (.placeholder name :: ps) [] why ↔
      why = .missingVariable (String.ofList ('\x7b' :: name ++ ['\x7d'])) template := by
  constructor
  · rintro (hname | ⟨-, hlen⟩ | ⟨-, hlen⟩)
    · cases hname
      rfl
    · exact absurd hlen (Nat.not_succ_le_zero _)
    · exact absurd hlen (Nat.not_lt_zero _)
  · rintro rfl
    exact .missing rfl

/-- **What filling refuses**, and in which order it looks. -/
theorem fillPieces_eq_error_iff (h : Scans t ps) {e : Error} :
    fillPieces template ps vs = .error e ↔
      ∃ why, Refused template ps vs why ∧ e = .invalidArgument why := by
  induction h generalizing vs with
  | literal _ =>
    simp only [refused_literal, refused_nil, fillPieces, map_eq_error]
    cases vs <;> simp [fillPieces, refuse, eq_comm]
  | unterminated _ _ =>
    simp only [refused_literal, refused_unterminated, fillPieces, map_eq_error]
    simp [refuse, eq_comm]
  | placeholder _ _ _ ih =>
    rw [fillPieces, map_eq_error]
    simp only [refused_literal]
    cases vs with
    | nil =>
      simp only [refused_missing, fillPieces]
      simp [refuse, eq_comm]
    | cons v vs =>
      simp only [refused_placeholder, fillPieces, map_eq_error]
      exact ih

/-! ## Paths -/

/-- A path is made of the pieces if no `{` is left open and there is a variable for each
placeholder. -/
theorem exists_fills_iff : (∃ cs, Fills ps vs cs) ↔ .unterminated ∉ ps ∧ arity ps = vs.length := by
  constructor
  · rintro ⟨cs, h⟩
    refine ⟨?_, h.arity_eq⟩
    induction h with
    | nil => exact List.not_mem_nil
    | literal s _ ih => simpa using ih
    | placeholder name v _ ih => simpa using ih
  · rintro ⟨hmem, hlen⟩
    induction ps generalizing vs with
    | nil =>
      rw [List.length_eq_zero_iff.1 hlen.symm]
      exact ⟨_, .nil⟩
    | cons p ps ih =>
      rw [List.mem_cons, not_or] at hmem
      cases p with
      | unterminated => exact absurd rfl hmem.1
      | literal s =>
        obtain ⟨cs, hcs⟩ := ih hmem.2 hlen
        exact ⟨_, .literal s hcs⟩
      | placeholder name =>
        cases vs with
        | nil => cases hlen
        | cons v vs =>
          obtain ⟨cs, hcs⟩ := ih hmem.2 (Nat.succ.inj hlen)
          exact ⟨_, .placeholder name v hcs⟩

theorem exists_fill_iff :
    (∃ p, fill template vs = .ok p) ↔
      .unterminated ∉ pieces template ∧ arity (pieces template) = vs.length := by
  rw [← exists_fills_iff]
  simp only [fill_eq_ok_iff]
  refine ⟨fun ⟨p, hp⟩ => ⟨_, hp⟩, fun ⟨cs, hcs⟩ => ⟨String.ofList cs, ?_⟩⟩
  rw [String.toList_ofList]
  exact hcs

/-! ## Variables told apart -/

/-- A literal that another placeholder follows begins with a character that no encoded text holds.
-/
def startsApart : List Piece → Bool
  | .literal s :: .placeholder _ :: _ => s.head?.any fun c => !isComponent c
  | _ => true

/-- From every placeholder to the next one there is a character that no encoded text holds, right
behind the first of them. -/
def separated : List Piece → Bool
  | [] => true
  | .placeholder _ :: ps => startsApart ps && separated ps
  | _ :: ps => separated ps

theorem fills_nil_iff : Fills [] vs cs ↔ vs = [] ∧ cs = [] := by
  constructor
  · rintro ⟨⟩
    exact ⟨rfl, rfl⟩
  · rintro ⟨rfl, rfl⟩
    exact .nil

theorem fills_literal_iff {s : List Char} :
    Fills (.literal s :: ps) vs cs ↔ ∃ rest, Fills ps vs rest ∧ cs = s ++ rest := by
  constructor
  · rintro ⟨⟩
    exact ⟨_, ‹_›, rfl⟩
  · rintro ⟨rest, h, rfl⟩
    exact .literal s h

theorem fills_placeholder_iff {name : List Char} :
    Fills (.placeholder name :: ps) vs cs ↔ ∃ v us rest, vs = v :: us ∧ Fills ps us rest ∧
      cs = (encodeComponent v).toList ++ rest := by
  constructor
  · rintro ⟨⟩
    exact ⟨_, _, _, rfl, ‹_›, rfl⟩
  · rintro ⟨v, us, rest, rfl, h, rfl⟩
    exact .placeholder name v h

/-- An encoded text ends in front of what no encoded text holds. -/
theorem takeWhile_encodeComponent (v : String) {c : Char} (hc : isComponent c = false)
    (rest : List Char) :
    ((encodeComponent v).toList ++ c :: rest).takeWhile isComponent =
      (encodeComponent v).toList := by
  rw [List.takeWhile_append_of_pos fun d hd => isComponent_of_mem hd,
    List.takeWhile_cons_of_neg (by simp [hc]), List.append_nil]

/-- What stands in place of a placeholder can be told when it is the last one or another character
comes before the next. -/
theorem Scans.encoded_inj {v w : String} {rest rest' : List Char} (hscan : Scans t ps)
    (hapart : startsApart ps) (h : Fills ps vs rest) (h' : Fills ps ws rest')
    (hsame : (encodeComponent v).toList ++ rest = (encodeComponent w).toList ++ rest') :
    (encodeComponent v).toList = (encodeComponent w).toList := by
  cases hscan with
  | @literal s _ =>
    simp only [fills_literal_iff, fills_nil_iff] at h h'
    obtain ⟨_, ⟨-, rfl⟩, rfl⟩ := h
    obtain ⟨_, ⟨-, rfl⟩, rfl⟩ := h'
    exact List.append_cancel_right hsame
  | unterminated _ _ =>
    obtain ⟨_, h, -⟩ := fills_literal_iff.1 h
    cases h
  | @placeholder s _ _ _ _ _ _ =>
    obtain ⟨_, -, rfl⟩ := fills_literal_iff.1 h
    obtain ⟨_, -, rfl⟩ := fills_literal_iff.1 h'
    cases s with
    | nil => cases hapart
    | cons c s =>
      have hc : isComponent c = false := by simpa [startsApart] using hapart
      have htaken := congrArg (List.takeWhile isComponent) hsame
      rw [List.cons_append, List.cons_append, takeWhile_encodeComponent v hc,
        takeWhile_encodeComponent w hc] at htaken
      exact htaken

/-- **The path tells the variables** when the placeholders are separated. -/
theorem Scans.fills_inj (hscan : Scans t ps) (hsep : separated ps) (h : Fills ps vs cs)
    (h' : Fills ps ws cs) : vs = ws := by
  induction hscan generalizing vs ws cs with
  | literal _ =>
    simp only [fills_literal_iff, fills_nil_iff] at h h'
    obtain ⟨_, ⟨rfl, -⟩, -⟩ := h
    obtain ⟨_, ⟨rfl, -⟩, -⟩ := h'
    rfl
  | unterminated _ _ =>
    obtain ⟨_, h, -⟩ := fills_literal_iff.1 h
    cases h
  | @placeholder s name rest ps _ _ hscan ih =>
    simp only [separated, Bool.and_eq_true] at hsep
    simp only [fills_literal_iff, fills_placeholder_iff] at h h'
    obtain ⟨_, ⟨v, vs, behind, rfl, h, rfl⟩, rfl⟩ := h
    obtain ⟨_, ⟨w, ws, behind', rfl, h', rfl⟩, hsame⟩ := h'
    replace hsame := List.append_cancel_left hsame
    have hencoded := hscan.encoded_inj hsep.1 h h' hsame
    rw [hencoded] at hsame
    rw [ih hsep.2 h (List.append_cancel_left hsame ▸ h'),
      encodeComponent_inj.1 (String.toList_inj.1 hencoded)]

end Template

/-- The placeholders of every route are separated. -/
theorem Route.separated_pieces (r : Route) : Template.separated (Template.pieces r.template) := by
  cases r <;> decide +kernel

/-! ## Requests -/

namespace Request

open Template

/-- **What the path of a request is**, whatever its template and its variables. The template has one
scan. There is a path if every `{` is closed and there are as many variables as placeholders, and
what is refused is the first thing that the scan meets, as an argument. The path is made of the
literals as they are and of the encoded variables in the places of the placeholders, in order, and
these hold unreserved characters and `%XX` triples only. When the placeholders are separated, as on
every route, requests with the same path have the same variables. -/
theorem path_exact (q : Request) :
    ∃ ps, (∀ ps', Scans q.template.toList ps' ↔ ps' = ps) ∧
      ((∃ p, q.path = .ok p) ↔ .unterminated ∉ ps ∧ arity ps = q.arguments.length) ∧
      (∀ e, q.path = .error e ↔
        ∃ why, Refused q.template ps q.arguments why ∧ e = .invalidArgument why) ∧
      (∀ p, q.path = .ok p ↔ Fills ps q.arguments p.toList) ∧
      (∀ v ∈ q.arguments, Text.Percent.Encoded (Text.Percent.encodeComponent v).toList) ∧
      (separated ps → ∀ (q' : Request) (p : String), q'.template = q.template →
        q.path = .ok p → q'.path = .ok p → q'.arguments = q.arguments) ∧
      ∀ r : Route, separated (pieces r.template) := by
  have hscan : Scans q.template.toList (pieces q.template) := scans_iff.2 rfl
  refine ⟨pieces q.template, fun ps' => scans_iff, exists_fill_iff, fun e => ?_,
    fun p => fill_eq_ok_iff, fun v _ => Text.Percent.encoded_encodeComponent v,
    fun hsep q' p htemplate hp hp' => ?_, Route.separated_pieces⟩
  · show (fillPieces q.template (pieces q.template) q.arguments).map String.ofList = .error e ↔ _
    rw [map_eq_error]
    exact fillPieces_eq_error_iff hscan
  · have hfills' : Fills (pieces q'.template) q'.arguments p.toList := fill_eq_ok_iff.1 hp'
    rw [htemplate] at hfills'
    exact hscan.fills_inj hsep hfills' (fill_eq_ok_iff.1 hp)

/-- A `}` without a `{` is literal, and what a variable holds is no placeholder. -/
example : (Request.path ⟨.get, "/a\x7d/\x7bx\x7by\x7d", ["\x7bz\x7d"], none⟩).toOption =
    some "/a\x7d/%7Bz%7D" := by
  decide +kernel

end Request

end CredStore
