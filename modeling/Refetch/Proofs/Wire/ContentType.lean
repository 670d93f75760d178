import Refetch.Proofs.Wire.Message
/-!
# The type of a message

How often the header of a message says what type its content has:

* `addedTypes`        the types that a payload adds to a header;
* `types_of_message`  a message has the types of its request, and behind them those that are added;
* `HasOneType`        a message has one type at most, and that of its request if there is one;
* `one_type_iff`      a message has one type unless its payload is a multipart form whose request
                      has a type already;
* `one_type_of_blob`  a blob leaves the type of its request alone;
* `two_types_of_form` such a form adds a second type.

A form and a blob look for a type in the header before they add their own, a multipart form does
not.
-/

namespace Refetch.Wire

open Http (Fields Field)

/-- the types that a payload adds to a header with these fields -/
def addedTypes (fs : Fields) : Payload → List Bytes
  | .form _ => if fs.has typeField then [] else [Text.utf8 formType]
  | .blob (some t) _ => if fs.has typeField then [] else [Text.utf8 t]
  | .multipart _ => [Text.utf8 (multipartType boundary)]
  | _ => []

theorem values_addMissing_self (fs : Fields) (name : String) (v : Bytes) :
    Fields.values (addMissing fs name v) name
      = fs.values name ++ if fs.has name then [] else [v] := by
  unfold addMissing
  split
  · exact (List.append_nil _).symm
  · exact values_addField_self fs name v

theorem typeValue?_eq_some {t : String} {v : Bytes} (h : typeValue? t = some v) :
    v = Text.utf8 t := by
  unfold typeValue? at h
  split at h
  · exact (Option.some.inj h).symm
  · cases h

theorem types_blobFields {fs gs : Fields} {t : Option String} {b : Bytes}
    (h : blobFields fs t = .ok gs) :
    gs.values typeField = fs.values typeField ++ addedTypes fs (.blob t b) := by
  unfold blobFields at h
  unfold addedTypes
  cases t with
  | none =>
    cases h
    exact (List.append_nil _).symm
  | some t =>
    cases hhas : fs.has typeField with
    | true =>
      simp only [hhas, if_true] at h ⊢
      cases h
      exact (List.append_nil _).symm
    | false =>
      simp only [hhas, Bool.false_eq_true, if_false] at h ⊢
      cases hv : typeValue? t with
      | none =>
        rw [hv] at h
        cases h
      | some v =>
        rw [hv] at h
        cases h
        rw [values_addField_self, typeValue?_eq_some hv]

theorem types_payloadContent {fs gs : Fields} {items : Option (List StreamItem)} {p : Payload}
    {c : Content} (h : payloadContent fs items p = .ok (gs, c)) :
    gs.values typeField = fs.values typeField ++ addedTypes fs p := by
  cases p with
  | empty | text _ | bytes _ =>
    cases h
    exact (List.append_nil _).symm
  | form pairs =>
    cases h
    exact values_addMissing_self fs typeField _
  | blob t b =>
    rw [payloadContent] at h
    cases hb : blobFields fs t with
    | error e =>
      rw [hb] at h
      cases h
    | ok gs' =>
      rw [hb] at h
      cases h
      exact types_blobFields hb
  | multipart ps =>
    rw [payloadContent] at h
    cases hps : wireParts ps with
    | error e =>
      rw [hps] at h
      cases h
    | ok qs =>
      rw [hps] at h
      cases h
      -- the length stands behind the type, under another name
      have hlength : Extends [Http.lengthField] (addField fs typeField _) (partsFields fs qs) :=
        .addField _ (List.mem_singleton.mpr rfl) _
      rw [hlength.values_eq (by decide), values_addField_self]
      rfl
  | stream cell =>
    cases items with
    | none => cases h
    | some its =>
      cases h
      exact (List.append_nil _).symm

/-- the types of a message: those of its request, and then those that its payload adds -/
theorem types_of_message {r : Request} {items : Option (List StreamItem)} {m : Outgoing}
    (h : message r items = .ok m) :
    m.fields.values typeField = r.fields.values typeField ++ addedTypes r.fields r.payload := by
  rcases message_cases r items with ⟨e, -, he⟩ | ⟨fs, c, gs, hcontent, hgs, hm⟩
  · rw [he] at h
    cases h
  · rw [hm] at h
    split at h
    · cases h
      rw [hgs.values_eq (by decide), types_payloadContent hcontent]
    · cases h

/-! ## one type -/

/-- a message has one type at most, and it is that of its request if there is one -/
def HasOneType (r : Request) (m : Outgoing) : Prop :=
  (m.fields.values typeField).length ≤ 1 ∧
    ∀ v ∈ r.fields.values typeField, m.fields.values typeField = [v]

theorem addedTypes_of_has {fs : Fields} {p : Payload} (h : fs.has typeField = true)
    (hp : ∀ ps, p ≠ .multipart ps) : addedTypes fs p = [] := by
  unfold addedTypes
  cases p with
  | form pairs => exact if_pos h
  | blob t b =>
    cases t with
    | none => rfl
    | some t => exact if_pos h
  | multipart ps => exact absurd rfl (hp ps)
  | empty | text _ | bytes _ | stream _ => rfl

theorem length_addedTypes_le (fs : Fields) (p : Payload) : (addedTypes fs p).length ≤ 1 := by
  unfold addedTypes
  split
  · split <;> simp
  · split <;> simp
  · exact Nat.le_refl 1
  · exact Nat.zero_le 1

theorem build_eq (r : Request) (cell : SinglePass (List StreamItem)) :
    ∃ items, (build r cell).1 = message r items := by
  unfold build
  split
  · exact ⟨_, rfl⟩
  · exact ⟨_, rfl⟩

/-- Let a request have one type at most.  A message that is built of it has the types of the request
and those that its payload adds.  That makes one type at most, and that of the request if there is
one, unless the payload is a multipart form and the request has a type. -/
theorem one_type_iff (r : Request) (h : (r.fields.values typeField).length ≤ 1)
    (cell : SinglePass (List StreamItem)) (m : Outgoing) (hm : (build r cell).1 = .ok m) :
    m.fields.values typeField = r.fields.values typeField ++ addedTypes r.fields r.payload ∧
      (HasOneType r m ↔ ¬ ((∃ ps, r.payload = .multipart ps) ∧ r.fields.has typeField = true)) := by
  obtain ⟨items, hitems⟩ := build_eq r cell
  rw [hitems] at hm
  have htypes := types_of_message hm
  refine ⟨htypes, ?_⟩
  unfold HasOneType
  rw [htypes]
  cases hhas : r.fields.has typeField with
  | false =>
    have hnone := (has_eq_false_iff r.fields typeField).mp hhas
    have hle := length_addedTypes_le r.fields r.payload
    rw [hnone, List.nil_append]
    constructor
    · rintro - ⟨-, ⟨⟩⟩
    · intro
      exact ⟨hle, fun v hv => absurd hv List.not_mem_nil⟩
  | true =>
    obtain ⟨v, hv⟩ := List.length_eq_one_iff.mp
      (Nat.le_antisymm h (List.length_pos_iff.mpr ((has_iff r.fields typeField).mp hhas)))
    by_cases hp : ∃ ps, r.payload = .multipart ps
    · obtain ⟨ps, hps⟩ := hp
      rw [hps, hv]
      constructor
      · rintro ⟨hlen, -⟩
        have htwo : 2 ≤ 1 := hlen
        exact absurd htwo (by decide)
      · intro hn
        exact absurd ⟨⟨ps, rfl⟩, rfl⟩ hn
    · have hadded := addedTypes_of_has hhas fun ps hps => hp ⟨ps, hps⟩
      rw [hadded, hv, List.append_nil]
      constructor
      · intro _ hn
        exact hp hn.1
      · intro
        refine ⟨Nat.le_refl 1, fun u hu => ?_⟩
        rw [List.mem_singleton.mp hu]

/-! ## a type that is there already -/

def typed (p : Payload) : Request :=
  ⟨.put, ⟨"http", some ⟨"", "", .name "origin.test", none⟩, .steps ["up"], none, none⟩,
    [⟨typeField, Text.utf8 "text/x-own"⟩], p⟩

/-- a blob whose request has a type keeps its own to itself -/
theorem one_type_of_blob :
    ∃ m, (build (typed (.blob (some "image/png") [137, 80])) ⟨none⟩).1 = .ok m ∧
      m.fields.values typeField = [Text.utf8 "text/x-own"] ∧
      HasOneType (typed (.blob (some "image/png") [137, 80])) m := by
  let r := typed (.blob (some "image/png") [137, 80])
  cases hm : (build r ⟨none⟩).1 with
  | error e =>
    have hok : (build r ⟨none⟩).1.isOk = true := by decide +kernel
    rw [hm] at hok
    cases hok
  | ok m =>
    obtain ⟨htypes, hone⟩ := one_type_iff r (by decide) ⟨none⟩ m hm
    refine ⟨m, rfl, htypes, hone.mpr ?_⟩
    rintro ⟨⟨ps, hps⟩, -⟩
    cases hps

/-- the form adds its type behind that of the request -/
theorem two_types_of_form :
    ¬ ∀ (r : Request) (cell : SinglePass (List StreamItem)) (m : Outgoing),
      (r.fields.values typeField).length ≤ 1 → (build r cell).1 = .ok m → HasOneType r m := by
  intro h
  let r := typed (.multipart [.ofText "greeting" (Text.utf8 "hi")])
  cases hm : (build r ⟨none⟩).1 with
  | error e =>
    have hok : (build r ⟨none⟩).1.isOk = true := by decide +kernel
    rw [hm] at hok
    cases hok
  | ok m =>
    obtain ⟨items, hitems⟩ := build_eq r ⟨none⟩
    have htypes : m.fields.values typeField
        = [Text.utf8 "text/x-own", Text.utf8 (multipartType boundary)] :=
      types_of_message (hitems ▸ hm)
    have hone : (m.fields.values typeField).length ≤ 1 := (h r ⟨none⟩ m (by decide) hm).1
    rw [htypes] at hone
    exact absurd hone (by decide)

end Refetch.Wire
