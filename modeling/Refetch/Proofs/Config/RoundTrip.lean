import Refetch.Proofs.Config.Members
/-!
# Configurations written and read back

* `Config.document_documentChars`   the written form is a document of all settings, in their order;
* `Config.ofDocument_document`      so it is read as they say;
* `Config.setAll_eq`                each field is its last set value, or the one it had;
* `Config.document_round_trip`      reading undoes writing.
-/

namespace Refetch

open Json

namespace Config

/-! ## the written form as a document -/

theorem key_get (c : Config) (k : Key) : (c.get k).key = k := by
  cases k <;> rfl

theorem valueText_eq (c : Config) (k : Key) : c.valueText k = (c.get k).text := by
  cases k with
  | budget => rfl
  | delayMs => rfl
  | allowUnsafe =>
    rw [valueText, get]
    cases c.allowUnsafe <;> rfl
  | ceiling =>
    rw [valueText, get]
    cases c.ceiling <;> rfl

theorem Key.isPlain_name (k : Key) : ∀ c ∈ k.name.toList, isPlain c = true := by
  have hall : k.name.toList.all isPlain = true := by cases k <;> decide
  exact List.all_eq_true.mp hall

theorem Key.spells_name (k : Key) : Spells k.name.toList k.name.toList := by
  have hname := Spells.plains k.isPlain_name .done
  rwa [List.append_nil] at hname

theorem entry_memberText (c : Config) (k : Key) : Entry [c.get k] (c.memberText k) := by
  have hname : Spells k.name.toList (c.get k).key.name.toList := by
    rw [key_get]
    exact k.spells_name
  have hentry := Entry.setting (c.get k) .none .none .none .none hname
  simp only [Json.memberText, Gap.none, List.nil_append, List.append_nil] at hentry
  rwa [memberText, valueText_eq]

theorem document_documentChars (c : Config) : Document (Key.all.map c.get) c.documentChars := by
  have hlast := Entries.last (c.entry_memberText .ceiling)
  have hmembers := Entries.more (c.entry_memberText .budget)
    (.more (c.entry_memberText .delayMs) (.more (c.entry_memberText .allowUnsafe) hlast))
  have hdocument := Document.entries .none .none hmembers
  simp only [Gap.none, List.nil_append, List.append_assoc, List.cons_append] at hdocument
  exact hdocument

theorem assigned_get (c : Config) : assigned (Key.all.map c.get) = c := rfl

theorem ofDocument_document (c : Config) : ofDocument c.document = .ok c := by
  have hkeys : (Key.all.map c.get).map Given.key = Key.all := rfl
  have hnodup : ((Key.all.map c.get).map Given.key).Nodup := by
    rw [hkeys]
    decide
  rw [ofDocument, document, String.toList_ofList, c.document_documentChars.ofChars_nodup hnodup,
    assigned_get]

example :
    ofDocument ("\x7b\"retry_budget\":2,\"retry_delay_ms\":250,\"allow_unsafe_retry\":true," ++
      "\"max_buffered_bytes_per_attempt\":null\x7d") =
      .ok { budget := 2, delayMs := 250, allowUnsafe := true } := by
  rfl

/-! ## setters -/

/-- the last value that `set?` finds in a list of settings, or `a` if it finds none -/
def lastSet {α : Type} (set? : Setting → Option α) (ss : List Setting) (a : α) : α :=
  (ss.filterMap set?).getLast?.getD a

/-- A field that each setter gives its value or leaves alone has its last set value after all of
them, or the one it had. -/
theorem get_setAll {α : Type} (get : Config → α) (set? : Setting → Option α)
    (h : ∀ c s, get (c.set s) = (set? s).getD (get c)) (c : Config) (ss : List Setting) :
    get (c.setAll ss) = lastSet set? ss (get c) := by
  induction ss generalizing c with
  | nil => rfl
  | cons s ss ih =>
    rw [setAll_cons, ih, h, lastSet, lastSet]
    cases hs : set? s with
    | none => rw [List.filterMap_cons_none hs, Option.getD_none]
    | some a =>
      rw [List.filterMap_cons_some hs, List.getLast?_cons, Option.getD_some, Option.getD_some]

def budgetSet? : Setting → Option UInt32
  | .budget n => some n
  | _ => none

def delaySet? : Setting → Option UInt64
  | .delayMs n => some n
  | _ => none

def allowUnsafeSet? : Setting → Option Bool
  | .allowUnsafe b => some b
  | _ => none

/-- the ceiling that a setter sets; no setter takes a ceiling away -/
def ceilingSet? : Setting → Option (Option UInt64)
  | .ceiling n => some (some n)
  | _ => none

/-- the last value that a list of setters sets for each field, or the one it had -/
def lastSets (c : Config) (ss : List Setting) : Config where
  budget := lastSet budgetSet? ss c.budget
  delayMs := lastSet delaySet? ss c.delayMs
  allowUnsafe := lastSet allowUnsafeSet? ss c.allowUnsafe
  ceiling := lastSet ceilingSet? ss c.ceiling

theorem setAll_eq (c : Config) (ss : List Setting) : c.setAll ss = c.lastSets ss := by
  have hbudget := get_setAll Config.budget budgetSet? (by intro c s; cases s <;> rfl) c ss
  have hdelay := get_setAll Config.delayMs delaySet? (by intro c s; cases s <;> rfl) c ss
  have hunsafe := get_setAll Config.allowUnsafe allowUnsafeSet? (by intro c s; cases s <;> rfl) c ss
  have hceiling := get_setAll Config.ceiling ceilingSet? (by intro c s; cases s <;> rfl) c ss
  rw [lastSets, ← hbudget, ← hdelay, ← hunsafe, ← hceiling]

/-- A configuration that was written is read back as it was: any at all, and so one made by a list
of setters, each field of which is its last set value or the one it had.  No two configurations
are written alike, and what was read from any document is read again from its written form. -/
theorem document_round_trip :
    (∀ c : Config, ofDocument c.document = .ok c) ∧
    (∀ (c : Config) (ss : List Setting),
      c.setAll ss = c.lastSets ss ∧ ofDocument (c.setAll ss).document = .ok (c.lastSets ss)) ∧
    (∀ c d : Config, c.document = d.document ↔ c = d) ∧
    ∀ s : String, (ofDocument s).bind (fun c => ofDocument c.document) = ofDocument s := by
  refine ⟨ofDocument_document, ?setters, ?injective, ?again⟩
  case setters =>
    intro c ss
    have hset := c.setAll_eq ss
    exact ⟨hset, by rw [hset, ofDocument_document]⟩
  case injective =>
    intro c d
    constructor
    · intro h
      have hread := congrArg ofDocument h
      rw [ofDocument_document, ofDocument_document] at hread
      exact Except.ok.inj hread
    · rintro rfl
      rfl
  case again =>
    intro s
    cases ofDocument s with
    | error p => rfl
    | ok c => rw [Except.bind, ofDocument_document]

end Config

end Refetch
