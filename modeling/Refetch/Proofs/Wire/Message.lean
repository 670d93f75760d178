import Mathlib.Data.List.Forall2
import Refetch.Wire.Outgoing
/-!
# What a message carries

A message says what its request says; a request that can make none is itself at fault:

* `SamePart`          a part on the wire is a part of the payload, with its type in normal form;
* `Carries`           a content is what a payload says;
* `Fault`             what is wrong with a payload;
* `Verbatim`          a message says what a request says;
* `Refused`           why a request makes no message;
* `payloadContent_cases`   a payload makes its content, or has a fault;
* `verbatim_of_message`    every message is verbatim;
* `message_eq_error_iff`   a request is refused for a fault of its payload, or else for its address.

The fields of the request come first and stay as they are; the few that are added stand behind them.
-/

namespace Refetch.Wire

open Http (Fields Field)

/-! ## fields that are added -/

theorem addField_eq (fs : Fields) (name : String) (v : Bytes) :
    addField fs name v = fs ++ [⟨name, v⟩] := rfl

theorem values_append (fs gs : Fields) (name : String) :
    Fields.values (fs ++ gs) name = fs.values name ++ gs.values name := by
  rw [Fields.values, List.filter_append, List.map_append]
  rfl

theorem has_iff (fs : Fields) (name : String) : fs.has name = true ↔ fs.values name ≠ [] := by
  simp [Fields.has, Fields.values]

theorem has_eq_false_iff (fs : Fields) (name : String) :
    fs.has name = false ↔ fs.values name = [] := by
  rw [← Bool.not_eq_true, has_iff, not_not]

theorem values_addField_self (fs : Fields) (name : String) (v : Bytes) :
    Fields.values (addField fs name v) name = fs.values name ++ [v] := by
  rw [addField_eq, values_append]
  simp [Fields.values]

/-- `gs` is `fs` with more fields behind it, all of these names -/
def Extends (names : List String) (fs gs : Fields) : Prop :=
  ∃ added, gs = fs ++ added ∧ ∀ f ∈ added, f.name ∈ names

namespace Extends

variable {names : List String} {fs gs hs : Fields}

theorem refl (names : List String) (fs : Fields) : Extends names fs fs :=
  ⟨[], (List.append_nil fs).symm, fun _ hf => absurd hf List.not_mem_nil⟩

theorem trans (h : Extends names fs gs) (h' : Extends names gs hs) : Extends names fs hs := by
  obtain ⟨xs, rfl, hxs⟩ := h
  obtain ⟨ys, rfl, hys⟩ := h'
  refine ⟨xs ++ ys, List.append_assoc fs xs ys, fun f hf => ?_⟩
  rcases List.mem_append.mp hf with hx | hy
  · exact hxs f hx
  · exact hys f hy

theorem addField (fs : Fields) {name : String} (h : name ∈ names) (v : Bytes) :
    Extends names fs (addField fs name v) := by
  refine ⟨[⟨name, v⟩], rfl, fun f hf => ?_⟩
  rw [List.mem_singleton.mp hf]
  exact h

theorem addMissing (fs : Fields) {name : String} (h : name ∈ names) (v : Bytes) :
    Extends names fs (addMissing fs name v) := by
  unfold Wire.addMissing
  split
  · exact refl names fs
  · exact addField fs h v

theorem mono (h : Extends names fs gs) {more : List String} (hsub : names ⊆ more) :
    Extends more fs gs := by
  obtain ⟨added, rfl, hadded⟩ := h
  exact ⟨added, rfl, fun f hf => hsub (hadded f hf)⟩

/-- the values of any other name are as before -/
theorem values_eq (h : Extends names fs gs) {name : String} (hname : name ∉ names) :
    gs.values name = fs.values name := by
  obtain ⟨added, rfl, hadded⟩ := h
  have hnone : added.filter (fun f => f.name == name) = [] := by
    refine List.filter_eq_nil_iff.mpr fun f hf he => hname ?_
    rw [← beq_iff_eq.mp he]
    exact hadded f hf
  rw [values_append, Fields.values, Fields.values, hnone]
  exact List.append_nil _

end Extends

/-- the names of the fields that a message is given besides those of its request -/
def givenFields : List String := [typeField, Http.lengthField, acceptField, userField]

/-! ## contents -/

/-- a part on the wire is a part of a payload, with its type in normal form -/
structure SamePart (p q : Part) : Prop where
  name : q.name = p.name
  fileName : q.fileName = p.fileName
  contentType : q.contentType.map some = p.contentType.map mediaType?
  data : q.data = p.data

/-- a content is what a payload says; `items` are those that its stream holds -/
inductive Carries (items : Option (List StreamItem)) : Payload → Content → Prop where
  | empty : Carries items .empty .none
  | text (s : String) : Carries items (.text s) (.whole (Text.utf8 s))
  | form (pairs : List (String × String)) :
      Carries items (.form pairs) (.whole (Text.utf8 (formText pairs)))
  | bytes (b : Bytes) : Carries items (.bytes b) (.whole b)
  | blob (t : Option String) (b : Bytes) : Carries items (.blob t b) (.whole b)
  | multipart {ps qs : List Part} (h : List.Forall₂ SamePart ps qs) :
      Carries items (.multipart ps) (.parts qs)
  | stream (c : CellId) {its : List StreamItem} (h : items = some its) :
      Carries items (.stream c) (.streamed its)

/-- what is wrong with the payload of a request -/
inductive Fault (r : Request) (items : Option (List StreamItem)) : Refusal → Prop where
  /-- the type of a blob is needed, and cannot be a field value -/
  | badType {t : String} {b : Bytes} (h : r.payload = .blob (some t) b)
      (needed : r.fields.has typeField = false) (bad : typeValue? t = none) :
      Fault r items .badType
  | badPartType {ps : List Part} {p : Part} {t : String} (h : r.payload = .multipart ps)
      (hp : p ∈ ps) (ht : p.contentType = some t) (bad : mediaType? t = none) :
      Fault r items .badPartType
  | alreadyTaken {c : CellId} (h : r.payload = .stream c) (gone : items = none) :
      Fault r items .alreadyTaken

theorem wirePart_cases (p : Part) :
    (∃ q, wirePart p = .ok q ∧ SamePart p q) ∨
      (wirePart p = .error .badPartType ∧ ∃ t, p.contentType = some t ∧ mediaType? t = none) := by
  unfold wirePart
  cases ht : p.contentType with
  | none => exact .inl ⟨p, rfl, rfl, rfl, by rw [ht]; rfl, rfl⟩
  | some t =>
    cases hm : mediaType? t with
    | none => exact .inr ⟨by simp [hm], t, rfl, hm⟩
    | some t' => exact .inl ⟨{ p with contentType := some t' }, by simp [hm], rfl, rfl,
        by rw [ht]; exact congrArg some hm.symm, rfl⟩

/-- all parts make their way, each in its place, or one has a type that is none -/
theorem wireParts_cases (ps : List Part) :
    (∃ qs, wireParts ps = .ok qs ∧ List.Forall₂ SamePart ps qs) ∨
      (wireParts ps = .error .badPartType ∧
        ∃ p ∈ ps, ∃ t, p.contentType = some t ∧ mediaType? t = none) := by
  induction ps with
  | nil => exact .inl ⟨[], rfl, .nil⟩
  | cons p ps ih =>
    rcases wirePart_cases p with ⟨q, hq, hsame⟩ | ⟨hq, ht⟩
    · rcases ih with ⟨qs, hqs, hall⟩ | ⟨hqs, p', hp', ht⟩
      · refine .inl ⟨q :: qs, ?_, .cons hsame hall⟩
        rw [wireParts, hq, hqs]
        rfl
      · refine .inr ⟨?_, p', List.mem_cons_of_mem p hp', ht⟩
        rw [wireParts, hq, hqs]
        rfl
    · refine .inr ⟨?_, p, List.mem_cons_self, ht⟩
      rw [wireParts, hq]

/-- a part whose type is none has no counterpart on the wire -/
theorem not_samePart {p q : Part} {t : String} (ht : p.contentType = some t)
    (bad : mediaType? t = none) : ¬ SamePart p q := by
  intro h
  have hc := h.contentType
  rw [ht, Option.map_some, bad] at hc
  cases hq : q.contentType <;> rw [hq] at hc <;> cases hc

theorem blobFields_cases (fs : Fields) (t : Option String) :
    (∃ gs, blobFields fs t = .ok gs ∧ Extends givenFields fs gs) ∨
      (blobFields fs t = .error .badType ∧
        ∃ s, t = some s ∧ fs.has typeField = false ∧ typeValue? s = none) := by
  unfold blobFields
  cases t with
  | none => exact .inl ⟨fs, rfl, .refl _ fs⟩
  | some s =>
    cases hhas : fs.has typeField with
    | true => exact .inl ⟨fs, by simp, .refl _ fs⟩
    | false =>
      cases hv : typeValue? s with
      | none => exact .inr ⟨by simp [hv], s, rfl, rfl, hv⟩
      | some v =>
        exact .inl ⟨addField fs typeField v, by simp [hv], .addField fs (by decide) v⟩

/-- a payload makes the content that it says, or it has a fault -/
theorem payloadContent_cases (r : Request) (items : Option (List StreamItem)) :
    (∃ fs c, payloadContent r.fields items r.payload = .ok (fs, c) ∧
        Extends givenFields r.fields fs ∧ Carries items r.payload c) ∨
      ∃ e, payloadContent r.fields items r.payload = .error e ∧ Fault r items e := by
  have kept := Extends.refl givenFields r.fields
  cases hp : r.payload with
  | empty => exact .inl ⟨_, _, rfl, kept, .empty⟩
  | text s => exact .inl ⟨_, _, rfl, kept, .text s⟩
  | bytes b => exact .inl ⟨_, _, rfl, kept, .bytes b⟩
  | form pairs => exact .inl ⟨_, _, rfl, .addMissing _ (by decide) _, .form pairs⟩
  | blob t b =>
    rcases blobFields_cases r.fields t with ⟨gs, hgs, hext⟩ | ⟨hgs, s, rfl, needed, bad⟩
    · exact .inl ⟨gs, .whole b, by rw [payloadContent, hgs]; rfl, hext, .blob t b⟩
    · exact .inr ⟨.badType, by rw [payloadContent, hgs]; rfl, .badType hp needed bad⟩
  | multipart ps =>
    rcases wireParts_cases ps with ⟨qs, hqs, hall⟩ | ⟨hqs, p, hmem, t, ht, bad⟩
    · refine .inl ⟨partsFields r.fields qs, .parts qs, ?_, ?_, .multipart hall⟩
      · rw [payloadContent, hqs]
        rfl
      · exact (Extends.addField _ (by decide) _).trans (.addField _ (by decide) _)
    · refine .inr ⟨.badPartType, ?_, .badPartType hp hmem ht bad⟩
      rw [payloadContent, hqs]
      rfl
  | stream c =>
    cases items with
    | none => exact .inr ⟨.alreadyTaken, rfl, .alreadyTaken hp rfl⟩
    | some its => exact .inl ⟨_, _, rfl, kept, .stream c rfl⟩

theorem payloadContent_of_fault {r : Request} {items : Option (List StreamItem)} {e : Refusal}
    (h : Fault r items e) : payloadContent r.fields items r.payload = .error e := by
  cases h with
  | badType h needed bad =>
    rw [h, payloadContent, blobFields]
    simp [needed, bad, Except.map]
  | @badPartType ps p t h hp ht bad =>
    rcases wireParts_cases ps with ⟨qs, -, hall⟩ | ⟨hqs, -⟩
    · obtain ⟨i, hi, rfl⟩ := List.getElem_of_mem hp
      exact absurd (hall.get hi (hall.length_eq ▸ hi)) (not_samePart ht bad)
    · rw [h, payloadContent, hqs]
      rfl
  | alreadyTaken h gone =>
    rw [h, gone]
    rfl

/-! ## messages -/

/-- the address of a message: user name and password have left it for the header -/
def sentUrl (u : Http.Url) : Http.Url :=
  if (u.authority.bind credentials?).isSome then u.withoutUser else u

def isNamed (u : Http.Url) : Bool := u.isHttp && u.isSendable

/-- a message says what a request says -/
structure Verbatim (r : Request) (items : Option (List StreamItem)) (m : Outgoing) : Prop where
  method : m.method = r.method
  url : m.url = sentUrl r.url
  fields : Extends givenFields r.fields m.fields
  content : Carries items r.payload m.content

theorem withUser_eq (m : Outgoing) :
    ∃ fs, m.withUser = { m with url := sentUrl m.url, fields := fs } ∧
      Extends [userField] m.fields fs := by
  unfold Outgoing.withUser sentUrl
  cases m.url.authority.bind credentials? with
  | none => exact ⟨m.fields, rfl, .refl _ _⟩
  | some words => exact ⟨_, rfl, .addMissing _ (List.mem_singleton.mpr rfl) _⟩

/-- a message has the content of the payload, the address without a user, and a header to which
what to accept and a user may be added -/
theorem message_cases (r : Request) (items : Option (List StreamItem)) :
    (∃ e, payloadContent r.fields items r.payload = .error e ∧ message r items = .error e) ∨
      ∃ fs c gs, payloadContent r.fields items r.payload = .ok (fs, c) ∧
        Extends [acceptField, userField] fs gs ∧
        message r items = if isNamed (sentUrl r.url) then .ok ⟨r.method, sentUrl r.url, gs, c⟩
          else .error .badAddress := by
  unfold message
  cases h : payloadContent r.fields items r.payload with
  | error e => exact .inl ⟨e, rfl, rfl⟩
  | ok x =>
    obtain ⟨fs, c⟩ := x
    have haccept : Extends [acceptField] fs (addMissing fs acceptField (Text.utf8 "*/*")) :=
      .addMissing fs (List.mem_singleton.mpr rfl) _
    obtain ⟨gs, hgs, huser⟩ := withUser_eq
      ⟨r.method, r.url, addMissing fs acceptField (Text.utf8 "*/*"), c⟩
    refine .inr ⟨fs, c, gs, rfl, (haccept.mono ?_).trans (huser.mono ?_), ?_⟩
    · exact List.cons_subset_cons _ (List.nil_subset _)
    · exact List.subset_cons_self _ _
    · dsimp only
      rw [hgs]
      rfl

/-- a message says what its request says -/
theorem verbatim_of_message {r : Request} {items : Option (List StreamItem)} {m : Outgoing}
    (h : message r items = .ok m) : Verbatim r items m := by
  rcases message_cases r items with ⟨e, -, he⟩ | ⟨fs, c, gs, hcontent, hgs, hm⟩
  · rw [he] at h
    cases h
  · rcases payloadContent_cases r items with ⟨fs', c', hok, hfs, hcarries⟩ | ⟨e, he, -⟩
    · rw [hcontent] at hok
      cases hok
      rw [hm] at h
      split at h
      · cases h
        exact ⟨rfl, rfl, hfs.trans (hgs.mono (by decide)), hcarries⟩
      · cases h
    · rw [hcontent] at he
      cases he

/-- why a request is refused -/
inductive Refused (r : Request) (items : Option (List StreamItem)) : Refusal → Prop where
  | payload {e : Refusal} (h : Fault r items e) : Refused r items e
  | address (whole : ∀ e, ¬ Fault r items e) (h : isNamed (sentUrl r.url) = false) :
      Refused r items .badAddress

/-- a request is refused for a fault of its payload, or else for its address -/
theorem message_eq_error_iff (r : Request) (items : Option (List StreamItem)) (e : Refusal) :
    message r items = .error e ↔ Refused r items e := by
  rcases message_cases r items with ⟨e', hcontent, hm⟩ | ⟨fs, c, gs, hcontent, -, hm⟩
  · rcases payloadContent_cases r items with ⟨fs, c, hok, -⟩ | ⟨e'', he, hfault⟩
    · rw [hcontent] at hok
      cases hok
    · rw [hcontent] at he
      cases he
      rw [hm]
      constructor
      · rintro ⟨rfl⟩
        exact .payload hfault
      · rintro (⟨h⟩ | ⟨whole, -⟩)
        · have he := payloadContent_of_fault h
          rw [hcontent] at he
          cases he
          rfl
        · exact absurd hfault (whole e')
  · have whole : ∀ e, ¬ Fault r items e := fun e' hf => by
      have he := payloadContent_of_fault hf
      rw [hcontent] at he
      cases he
    rw [hm]
    cases hu : isNamed (sentUrl r.url) with
    | true =>
      refine ⟨fun h => (by cases h), fun h => ?_⟩
      rcases h with ⟨h⟩ | ⟨-, h⟩
      · exact absurd h (whole e)
      · rw [hu] at h
        cases h
    | false =>
      refine ⟨fun h => ?_, fun h => ?_⟩
      · cases h
        exact .address whole hu
      · rcases h with ⟨h⟩ | ⟨-, -⟩
        · exact absurd h (whole e)
        · rfl

end Refetch.Wire
