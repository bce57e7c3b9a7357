/-
The JSON form of a log record. It is one line, whatever the record's texts hold, so that a record is
neither cut in two nor taken for several; and it is read again as the entries of the record.
-/
import ObjectChannel.Log.Record
import ObjectChannel.Proofs.Json.Limits
import ObjectChannel.Proofs.Json.RoundTrip

namespace ObjectChannel.Log.Record

/-- The names of the entries that every record has. -/
def fixedNames : List String := ["level", "logger", "message"]

/-- The entries that a record shows if it reports no failure: level, logger and message, or what the
extra entries have in their places, and then the other extra entries in their order. -/
def shown (r : Record) : List (String × Value) :=
  [("level", (r.extra.lookup "level").getD (.text r.levelName)),
    ("logger", (r.extra.lookup "logger").getD (.text r.logger)),
    ("message", (r.extra.lookup "message").getD (.text r.message))] ++
  r.extra.filter fun e => e.1 ∉ fixedNames

theorem payload_entries {r : Record} (hfailure : r.failure = none)
    (hnames : (r.extra.map Prod.fst).Nodup) : r.payload.entries = r.shown := by
  let fixed : Table Value :=
    ⟨[("level", .text r.levelName), ("logger", .text r.logger), ("message", .text r.message)]⟩
  have hfixed : fixed.keys.Nodup := show fixedNames.Nodup by decide
  rw [payload, hfailure]
  exact Table.entries_update hfixed hnames

theorem names_shown (r : Record) :
    r.shown.map Prod.fst = fixedNames ++ (r.extra.map Prod.fst).filter fun name => name ∉ fixedNames := by
  rw [shown, List.map_append, List.filter_map]
  rfl

/-- What stands in the place of a fixed entry. -/
theorem isData_fixed {extra : List (String × Value)} (hextra : ∀ e ∈ extra, e.2.IsData)
    (name text : String) : ((extra.lookup name).getD (.text text)).IsData := by
  cases h : extra.lookup name with
  | none => exact .text text
  | some v =>
    obtain ⟨before, after, rfl, -⟩ := List.lookup_eq_some_iff.mp h
    exact hextra (name, v) (List.mem_append_right before (.head after))

theorem isData_shown {r : Record} (h : (Value.object r.extra).IsData) :
    (Value.object r.shown).IsData := by
  obtain ⟨hnames, hextra⟩ : (r.extra.map Prod.fst).Nodup ∧ ∀ e ∈ r.extra, e.2.IsData := by
    cases h with
    | object hnames hextra => exact ⟨hnames, hextra⟩
  refine .object ?_ fun e he => ?_
  · rw [names_shown, List.nodup_append]
    refine ⟨by decide, hnames.filter _, fun name hname name' hname' hsame => ?_⟩
    have hother := List.mem_filter.mp hname'
    simp only [decide_eq_true_eq] at hother
    exact hother.2 (hsame ▸ hname)
  · rcases List.mem_append.mp he with he | he
    · simp only [List.mem_cons, List.not_mem_nil, or_false] at he
      rcases he with rfl | rfl | rfl <;> exact isData_fixed hextra _ _
    · exact hextra e (List.mem_filter.mp he).1

/-- **A log record is one line of JSON, which is read as its entries.** One whose entries are nested too
deep, or have a number that is too long, is not written at all. -/
theorem one_line (nesting : Nat) (r : Record) (hfailure : r.failure = none)
    (hextra : (Value.object r.extra).IsData) :
    ((Value.object r.shown).Fits nesting →
      ∃ text, r.json nesting = .ok text ∧ (∀ c ∈ text.toList, 32 ≤ c.toNat) ∧
        Json.read text = some (.object r.shown)) ∧
    (¬(Value.object r.shown).Fits nesting →
      ∃ why, r.json nesting = .error why ∧ (Value.object r.shown).Hinders nesting why) := by
  have hdata := isData_shown hextra
  have hentries : r.payload.entries = r.shown := by
    cases hextra with
    | object hnames _ => exact payload_entries hfailure hnames
  rw [json, hentries]
  refine ⟨fun hfits => ⟨_, Json.write_of_fits hdata hfits, ?_, Json.read_writeValue hdata⟩,
    Json.write_of_not_fits hdata⟩
  rw [String.toList_ofList]
  exact Json.onOneLine_writeValue hdata

/-- A record whose message tries to be another record, and whose extra entries have a level of their
own. -/
def forged : Record where
  level := Level.warning
  logger := "s3channels.\"test\""
  message := "done\"\x7d\n\x7b\"level\": \"ERROR\\"
  levelName := "WARNING\x1b"
  extra := [("upload", .object [("parts", .list [.int 1, .int (-20)]), ("tag", .null)]),
    ("level", .text "né\u2028"), ("kept", .bool true)]

theorem one_line_of_forged :
    ∃ text, forged.json 3 = .ok text ∧ (∀ c ∈ text.toList, 32 ≤ c.toNat) ∧
      Json.read text = some (.object [("level", .text "né\u2028"),
        ("logger", .text "s3channels.\"test\""),
        ("message", .text "done\"\x7d\n\x7b\"level\": \"ERROR\\"),
        ("upload", .object [("parts", .list [.int 1, .int (-20)]), ("tag", .null)]),
        ("kept", .bool true)]) := by
  have hupload : (Value.object [("parts", .list [.int 1, .int (-20)]), ("tag", .null)]).IsData := by
    refine .object (by decide) (List.forall_mem_cons.mpr ⟨.list ?_, List.forall_mem_singleton.mpr .null⟩)
    exact List.forall_mem_cons.mpr ⟨.int 1, List.forall_mem_singleton.mpr (.int (-20))⟩
  have hextra : (Value.object forged.extra).IsData := by
    refine .object (by decide) (List.forall_mem_cons.mpr ⟨hupload, ?_⟩)
    exact List.forall_mem_cons.mpr ⟨.text _, List.forall_mem_singleton.mpr (.bool true)⟩
  have hfits : (Value.object forged.shown).Fits 3 := by
    refine ⟨by decide, fun n hn => ?_⟩
    have hsmall : n.natAbs ≤ 20 := by
      have hnumbers : (Value.object forged.shown).numbers = [1, -20] := by decide
      rw [hnumbers] at hn
      revert n
      decide
    exact Text.lt_pow_maxDigits (Nat.le_trans hsmall (by decide))
  exact (one_line 3 forged rfl hextra).1 hfits

/-- A record whose extra entry is nested as deep as this. -/
def deep (n : Nat) : Record where
  level := Level.info
  logger := "a"
  message := "m"
  extra := [("x", Json.nested n)]

/-- There are texts and lists alone in a record that is not written. -/
theorem deep_record_refused :
    (deep 984).failure = none ∧ (Value.object (deep 984).extra).IsData ∧
      (deep 984).json 985 = .error .tooDeep := by
  refine ⟨rfl, .object (by decide) (List.forall_mem_singleton.mpr (Json.isData_nested 984)), ?_⟩
  have hentries : (deep 984).payload.entries = [("level", .text "INFO"), ("logger", .text "a"),
      ("message", .text "m"), ("x", Json.nested 984)] := rfl
  rw [json, hentries]
  simp only [Json.write, Json.check, Json.checkFields, Json.check_nested (Nat.le_refl 984)]
  rfl

end ObjectChannel.Log.Record
