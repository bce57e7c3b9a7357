/-
Values read from the JSON text that is written for them. A value is read where its text stands, whatever
comes behind it; only behind a number no digit, point or exponent may follow, and none does.
-/
import ObjectChannel.Json.Reader
import ObjectChannel.Proofs.Json.OneLine
import ObjectChannel.Proofs.Table

namespace ObjectChannel.Json

theorem hexDigit?_digitChar {d : Nat} (h : d < 16) : hexDigit? (Nat.digitChar d) = some d := by
  revert d
  decide

theorem hexNumber?_hexDigits (w n : Nat) : hexNumber? (Text.hexDigits w n) = some (n % 16 ^ w) := by
  induction w generalizing n with
  | zero => simp [hexNumber?, Text.hexDigits, Nat.mod_one]
  | succ w ih =>
    have hlast : hexDigit? (Nat.digitChar (n % 16)) = some (n % 16) :=
      hexDigit?_digitChar (Nat.mod_lt n (by decide))
    have hvalue : 16 * (n / 16 % 16 ^ w) + n % 16 = n % 16 ^ (w + 1) := by
      rw [Nat.pow_succ', Nat.mod_mul]
      omega
    have hfirst := ih (n / 16)
    unfold hexNumber? at hfirst ⊢
    rw [Text.hexDigits, List.foldlM_append, hfirst]
    simp only [List.foldlM_cons, List.foldlM_nil, hlast, Option.bind_eq_bind, Option.bind_some,
      Option.map_some, hvalue, Option.pure_def]

theorem readString_escaped (done : List Char) (c : Char) (rest : List Char) :
    readString done (escaped c ++ rest) = readString (c :: done) rest := by
  rcases escaped_cases c with ⟨d, hd, h, hc⟩ | ⟨hlow, h⟩ | ⟨hlow, hquote, hslash, h⟩
  · have hletter : d ≠ 'u' := by
      rintro rfl
      exact absurd hd (by decide)
    rw [h, List.cons_append, List.singleton_append, readString, hc]
    exact fun _ _ _ _ _ hu _ => hletter hu
  · have hnumber := hexNumber?_hexDigits 4 c.toNat
    rw [Nat.mod_eq_of_lt (by omega)] at hnumber
    rw [h]
    simp only [Text.hexDigits, List.nil_append, List.cons_append] at hnumber ⊢
    rw [readString, hnumber]
    simp only [if_pos (.inl (by omega) : c.toNat < 0xD800 ∨ 0xE000 ≤ c.toNat), Char.ofNat_toNat]
  · rw [h, List.singleton_append, readString, if_neg (Nat.not_lt.mpr hlow)]
    · exact hquote
    · exact fun _ _ _ _ _ hc _ => hslash hc
    · exact fun _ _ hc _ => hslash hc

theorem readString_flatMap (done s rest : List Char) :
    readString done (s.flatMap escaped ++ '"' :: rest) = some (.ofList (done.reverse ++ s), rest) := by
  induction s generalizing done with
  | nil => rw [List.append_nil]; rfl
  | cons c s ih =>
    rw [List.flatMap_cons, List.append_assoc, readString_escaped, ih, List.reverse_cons,
      List.append_assoc, List.singleton_append]

/-- What stands behind a value: nothing, or a mark that no value goes on with. -/
inductive Stops : List Char → Prop
  | done : Stops []
  | comma (rest : List Char) : Stops (',' :: rest)
  | bracket (rest : List Char) : Stops (']' :: rest)
  | brace (rest : List Char) : Stops ('\x7d' :: rest)

theorem ne_of_isDigit {c d : Char} (hc : c.isDigit = true) (hd : d.isDigit = false) : c ≠ d := by
  rintro rfl
  exact absurd hc (by simp [hd])

theorem readDigits_append {digits rest : List Char} (hne : digits ≠ [])
    (hdigits : ∀ c ∈ digits, c.isDigit = true) (hrest : Stops rest) :
    readDigits (digits ++ rest) = some (digits, rest) := by
  have hstop : rest.takeWhile Char.isDigit = [] ∧ rest.dropWhile Char.isDigit = rest := by
    cases hrest <;> exact ⟨rfl, rfl⟩
  have htake : (digits ++ rest).takeWhile Char.isDigit = digits := by
    rw [List.takeWhile_append_of_pos hdigits, hstop.1, List.append_nil]
  have hdrop : (digits ++ rest).dropWhile Char.isDigit = rest := by
    rw [List.dropWhile_append_of_pos hdigits, hstop.2]
  simp only [readDigits, htake, hdrop, List.isEmpty_eq_false_iff.mpr hne, Bool.false_eq_true, ite_false]

theorem natural_toDigits (n : Nat) : natural (Nat.toDigits 10 n) = n := by
  have hvalue := Nat.ofDigitChars_toDigits (n := n) (by decide : 1 < 10) (by decide)
  rwa [Nat.ofDigitChars_eq_foldl] at hvalue

theorem head?_toDigits (n : Nat) : ∃ c cs, Nat.toDigits 10 n = c :: cs ∧ c.isDigit = true := by
  cases h : Nat.toDigits 10 n with
  | nil => exact absurd h Nat.toDigits_ne_nil
  | cons c cs =>
    have hmem : c ∈ Nat.toDigits 10 n := h ▸ List.mem_cons_self
    exact ⟨c, cs, rfl, Text.isDigit_of_mem_toDigits hmem⟩

theorem readNamed_toString (n : Int) (rest : List Char) :
    readNamed ((toString n).toList ++ rest) = none := by
  obtain ⟨c, cs, hdigits, hc⟩ := head?_toDigits n.natAbs
  have hne {d : Char} (hd : d.isDigit = false) : ¬d = c := (ne_of_isDigit hc hd).symm
  rw [Text.toList_toString, hdigits]
  split
  · simp [readNamed, named, List.isPrefixOf?, hne (by decide : 'I'.isDigit = false)]
  · simp [readNamed, named, List.isPrefixOf?, hne (by decide : 'n'.isDigit = false),
      hne (by decide : 't'.isDigit = false), hne (by decide : 'f'.isDigit = false),
      hne (by decide : 'I'.isDigit = false), hne (by decide : '-'.isDigit = false)]

theorem readNumber_toString (n : Int) {rest : List Char} (hrest : Stops rest) :
    readNumber ((toString n).toList ++ rest) = some (.int n, rest) := by
  obtain ⟨c, cs, hdigits, hc⟩ := head?_toDigits n.natAbs
  have hread := readDigits_append (Nat.toDigits_ne_nil (b := 10) (n := n.natAbs))
    (fun _ => Text.isDigit_of_mem_toDigits) hrest
  have hwhole : readFraction rest = none ∧ readExponent rest = none := by
    cases hrest <;> exact ⟨rfl, rfl⟩
  rw [Text.toList_toString]
  by_cases hn : n < 0
  · simp only [hn, ite_true, readNumber, List.cons_append, List.head?_cons, decide_true, List.drop_succ_cons,
      List.drop_zero, hread, hwhole, Option.elim_none, Option.isNone_none, Bool.and_self, natural_toDigits]
    congr 3
    omega
  · have hplus : ((Nat.toDigits 10 n.natAbs ++ rest).head? = some '-') = False := by
      rw [hdigits, List.cons_append, List.head?_cons, Option.some.injEq]
      exact eq_false (ne_of_isDigit hc (by decide))
    simp only [hn, ite_false, readNumber, hplus, decide_false, hread, hwhole, Option.elim_none,
      Option.isNone_none, Bool.and_self, ite_true, natural_toDigits]
    congr 3
    omega

theorem skipBlanks_cons {c : Char} (hc : isBlank c = false) (s : List Char) :
    skipBlanks (c :: s) = c :: s := by simp [skipBlanks, hc]

theorem skipBlanks_blank (s : List Char) : skipBlanks (' ' :: s) = skipBlanks s := rfl

theorem readValue_blank (fuel : Nat) (s : List Char) : readValue fuel (' ' :: s) = readValue fuel s := by
  cases fuel with
  | zero => rfl
  | succ fuel => rw [readValue, readValue, skipBlanks_blank]

theorem readItems_blank (fuel : Nat) (done : List Value) (s : List Char) :
    readItems fuel done (' ' :: s) = readItems fuel done s := by
  cases fuel with
  | zero => rfl
  | succ fuel => rw [readItems, readItems, readValue_blank]

theorem readFields_blank (fuel : Nat) (done : Table Value) (s : List Char) :
    readFields fuel done (' ' :: s) = readFields fuel done s := by
  cases fuel with
  | zero => rfl
  | succ fuel => rw [readFields, readFields, skipBlanks_blank]

theorem skipBlanks_of_stops {s : List Char} (h : Stops s) : skipBlanks s = s := by
  cases h <;> rfl

/-- The text of the value is read as the value, with enough fuel and wherever a value may end. -/
def ReadsBack (v : Value) : Prop :=
  ∀ {fuel : Nat} {rest : List Char}, (writeValue v).length ≤ fuel → Stops rest →
    readValue fuel (writeValue v ++ rest) = some (v, rest)

theorem readsBack_text (s : String) : ReadsBack (.text s) := by
  intro fuel rest hfuel _
  cases fuel with
  | zero => simp [writeValue, writeString] at hfuel
  | succ fuel =>
    have hread := readString_flatMap [] s.toList rest
    rw [readValue]
    simp only [writeValue, writeString, List.cons_append, List.append_assoc,
      skipBlanks_cons (show isBlank '"' = false from rfl), List.nil_append, hread, List.reverse_nil,
      Option.map_some, String.ofList_toList]

/-- The marks that a value with a mark of its own begins with, and the blanks. -/
def openers : List Char := [' ', '\t', '\n', '\r', '"', '[', '\x7b']

theorem not_mem_openers {c : Char} (hc : c.isDigit = true) : c ∉ openers := by
  have hopeners : openers.all (fun d => d.isDigit == false) = true := by decide
  exact fun h => ne_of_isDigit hc (beq_iff_eq.mp (List.all_eq_true.mp hopeners c h)) rfl

theorem readValue_word {c : Char} (hc : c ∉ openers) (fuel : Nat) (s : List Char) :
    readValue (fuel + 1) (c :: s) = (readNamed (c :: s)).or (readNumber (c :: s)) := by
  simp only [openers, List.mem_cons, List.not_mem_nil, or_false, not_or] at hc
  obtain ⟨hblank, htab, hfeed, hreturn, hquote, hbracket, hbrace⟩ := hc
  have hskip : skipBlanks (c :: s) = c :: s :=
    skipBlanks_cons (by simp [isBlank, hblank, htab, hfeed, hreturn]) s
  rw [readValue, hskip]
  split
  next h => exact absurd (List.cons.inj h).1 hquote
  next h => exact absurd (List.cons.inj h).1 hbracket
  next h => exact absurd (List.cons.inj h).1 hbrace
  next => rfl

theorem readsBack_int (n : Int) : ReadsBack (.int n) := by
  intro fuel rest hfuel hrest
  obtain ⟨c, cs, hc, htext⟩ : ∃ c cs, c ∉ openers ∧ (toString n).toList = c :: cs := by
    obtain ⟨c, cs, hdigits, hc⟩ := head?_toDigits n.natAbs
    rw [Text.toList_toString, hdigits]
    split
    · exact ⟨'-', c :: cs, by decide, rfl⟩
    · exact ⟨c, cs, not_mem_openers hc, rfl⟩
  have hword := readNamed_toString n rest
  have hnumber := readNumber_toString n hrest
  simp only [writeValue, htext, List.cons_append] at hfuel hword hnumber ⊢
  cases fuel with
  | zero => exact absurd hfuel (Nat.not_succ_le_zero _)
  | succ fuel => rw [readValue_word hc, hword, hnumber, Option.none_or]

theorem readsBack_null : ReadsBack .null := by
  intro fuel rest hfuel _
  cases fuel with
  | zero => exact absurd hfuel (by decide)
  | succ fuel => exact readValue_word (by decide) fuel _

theorem readsBack_bool (b : Bool) : ReadsBack (.bool b) := by
  intro fuel rest hfuel _
  cases b <;> cases fuel with
  | zero => exact absurd hfuel (by decide)
  | succ fuel => exact readValue_word (by decide) fuel _

/-- The text of a value begins with a character that neither is blank nor closes a list. -/
theorem head_writeValue {v : Value} (h : v.IsData) :
    ∃ c s, writeValue v = c :: s ∧ isBlank c = false ∧ c ≠ ']' := by
  cases h with
  | null => exact ⟨_, _, rfl, by decide, by decide⟩
  | bool b => cases b <;> exact ⟨_, _, rfl, by decide, by decide⟩
  | int n =>
    obtain ⟨c, cs, hdigits, hc⟩ := head?_toDigits n.natAbs
    rw [writeValue, Text.toList_toString, hdigits]
    split
    · exact ⟨_, _, rfl, by decide, by decide⟩
    · refine ⟨_, _, rfl, ?_, ne_of_isDigit hc (by decide)⟩
      have hopeners := not_mem_openers hc
      simp only [openers, List.mem_cons, not_or] at hopeners
      simp [isBlank, hopeners]
  | text s => exact ⟨_, _, rfl, by decide, by decide⟩
  | list => rename_i items _; cases items <;> exact ⟨_, _, rfl, by decide, by decide⟩
  | object => rename_i fields _ _; cases fields <;> exact ⟨_, _, rfl, by decide, by decide⟩

theorem readItems_writeItems {v : Value} {vs : List Value} (h : ∀ w ∈ v :: vs, ReadsBack w)
    {fuel : Nat} (done : List Value) (rest : List Char)
    (hfuel : (writeValue v).length + (writeItems vs).length ≤ fuel + 1) :
    readItems (fuel + 1) done (writeValue v ++ (writeItems vs ++ rest)) =
      some (.list (done.reverse ++ v :: vs), rest) := by
  induction vs generalizing v fuel done with
  | nil =>
    rw [writeItems, List.length_singleton] at hfuel
    have hread := h v (.head _) (Nat.le_of_succ_le_succ hfuel) (.bracket rest)
    rw [readItems, writeItems, List.singleton_append, hread]
    simp only [skipBlanks_of_stops (.bracket rest), List.reverse_cons]
  | cons w ws ih =>
    simp only [writeItems, List.length_cons, List.length_append, List.cons_append,
      List.append_assoc] at hfuel ⊢
    have hread := h v (.head _) (by omega : (writeValue v).length ≤ fuel)
      (.comma (' ' :: (writeValue w ++ (writeItems ws ++ rest))))
    obtain ⟨fuel, rfl⟩ : ∃ n, fuel = n + 1 := ⟨fuel - 1, by omega⟩
    have hrest := ih (fun u hu => h u (.tail _ hu)) (v :: done)
      (by omega : (writeValue w).length + (writeItems ws).length ≤ fuel + 1)
    rw [readItems, hread]
    simp only [skipBlanks_of_stops (.comma _), readItems_blank, hrest, List.reverse_cons,
      List.append_assoc, List.singleton_append]

theorem readsBack_list {items : List Value} (hdata : ∀ v ∈ items, v.IsData)
    (h : ∀ v ∈ items, ReadsBack v) : ReadsBack (.list items) := by
  intro fuel rest hfuel _
  cases items with
  | nil =>
    cases fuel with
    | zero => exact absurd hfuel (by decide)
    | succ fuel => rw [readValue]; rfl
  | cons v vs =>
    obtain ⟨c, s, hv, hblank, hclose⟩ := head_writeValue (hdata v (.head _))
    have hpos : 0 < (writeItems vs).length := by cases vs <;> exact Nat.succ_pos _
    simp only [writeValue, List.length_cons, List.length_append, List.cons_append,
      List.append_assoc] at hfuel ⊢
    obtain ⟨fuel, rfl⟩ : ∃ n, fuel = n + 1 + 1 := ⟨fuel - 2, by rw [hv, List.length_cons] at hfuel; omega⟩
    have hitems := readItems_writeItems h [] rest (Nat.le_of_succ_le_succ hfuel)
    have hskip : skipBlanks (writeValue v ++ (writeItems vs ++ rest)) = c :: (s ++ (writeItems vs ++ rest)) := by
      rw [hv]
      exact skipBlanks_cons hblank _
    rw [readValue, skipBlanks_cons (by decide)]
    simp only [hskip]
    split
    next heq => exact absurd (List.cons.inj heq).1 hclose
    next =>
      rw [hv] at hitems
      exact hitems

/-- A field is read by its name, and then its value; what stands behind that tells whether another one
follows. -/
theorem readFields_field {fuel : Nat} {done : Table Value} {k : String} {v : Value} {after more : List Char}
    (hread : readValue fuel after = some (v, more)) :
    (∀ rest, skipBlanks more = ',' :: rest →
      readFields (fuel + 1) done (writeString k ++ ':' :: ' ' :: after) =
        readFields fuel (done.insert k v) rest) ∧
    ∀ rest, skipBlanks more = '\x7d' :: rest →
      readFields (fuel + 1) done (writeString k ++ ':' :: ' ' :: after) =
        some (.object (done.insert k v).entries, rest) := by
  have hname : readString [] (k.toList.flatMap escaped ++ '"' :: ':' :: ' ' :: after) =
      some (k, ':' :: ' ' :: after) := by
    rw [readString_flatMap, List.reverse_nil, List.nil_append, String.ofList_toList]
  constructor <;> intro rest hmore <;>
    simp only [readFields, writeString, List.cons_append, List.append_assoc, List.nil_append,
      skipBlanks_cons (show isBlank '"' = false from rfl), hname,
      skipBlanks_cons (show isBlank ':' = false from rfl), readValue_blank, hread, hmore]

theorem readFields_writeFields {k : String} {v : Value} {fs : List (String × Value)}
    (h : ∀ f ∈ (k, v) :: fs, ReadsBack f.2) {fuel : Nat} (done : Table Value) (rest : List Char)
    (hnames : (done.keys ++ k :: fs.map Prod.fst).Nodup)
    (hfuel : (writeValue v).length + (writeFields fs).length ≤ fuel + 1) :
    readFields (fuel + 1) done (writeString k ++ ':' :: ' ' :: (writeValue v ++ (writeFields fs ++ rest))) =
      some (.object (done.entries ++ (k, v) :: fs), rest) := by
  induction fs generalizing k v fuel done with
  | nil =>
    have hinsert := Table.entries_insert_of_not_mem (t := done) v fun hk =>
      (List.nodup_append.mp hnames).2.2 k hk k (.head _) rfl
    rw [writeFields, List.length_singleton] at hfuel
    have hread := h _ (.head _) (Nat.le_of_succ_le_succ hfuel) (.brace rest)
    rw [writeFields, List.singleton_append,
      (readFields_field hread).2 rest (skipBlanks_of_stops (.brace rest)), hinsert]
  | cons f fs ih =>
    obtain ⟨k', v'⟩ := f
    have hinsert := Table.entries_insert_of_not_mem (t := done) v fun hk =>
      (List.nodup_append.mp hnames).2.2 k hk k (.head _) rfl
    simp only [writeFields, List.length_cons, List.length_append, List.cons_append,
      List.append_assoc] at hfuel ⊢
    have hread := h _ (.head _) (by omega : (writeValue v).length ≤ fuel)
      (.comma (' ' :: (writeString k' ++ ':' :: ' ' :: (writeValue v' ++ (writeFields fs ++ rest)))))
    obtain ⟨fuel, rfl⟩ : ∃ n, fuel = n + 1 := ⟨fuel - 1, by omega⟩
    have hnames' : ((done.insert k v).keys ++ k' :: fs.map Prod.fst).Nodup := by
      rw [Table.keys, hinsert, List.map_append, List.append_assoc]
      exact hnames
    have hrest := ih (fun g hg => h g (.tail _ hg)) (done.insert k v) hnames'
      (by omega : (writeValue v').length + (writeFields fs).length ≤ fuel + 1)
    rw [(readFields_field hread).1 _ (skipBlanks_of_stops (.comma _)), readFields_blank, hrest, hinsert,
      List.append_assoc, List.singleton_append]

theorem readsBack_object {fields : List (String × Value)} (hnames : (fields.map Prod.fst).Nodup)
    (h : ∀ f ∈ fields, ReadsBack f.2) : ReadsBack (.object fields) := by
  intro fuel rest hfuel _
  cases fields with
  | nil =>
    cases fuel with
    | zero => exact absurd hfuel (by decide)
    | succ fuel => rw [readValue]; rfl
  | cons f fs =>
    obtain ⟨k, v⟩ := f
    simp only [writeValue, List.length_cons, List.length_append, List.cons_append,
      List.append_assoc] at hfuel ⊢
    obtain ⟨fuel, rfl⟩ : ∃ n, fuel = n + 1 + 1 := ⟨fuel - 2, by omega⟩
    have hfields := readFields_writeFields h .empty rest hnames
      (by omega : (writeValue v).length + (writeFields fs).length ≤ fuel + 1)
    rw [readValue, skipBlanks_cons (by decide)]
    exact hfields

theorem readsBack {v : Value} (h : v.IsData) : ReadsBack v := by
  induction h with
  | null => exact readsBack_null
  | bool b => exact readsBack_bool b
  | int n => exact readsBack_int n
  | text s => exact readsBack_text s
  | list hitems ih => exact readsBack_list hitems ih
  | object hnames _ ih => exact readsBack_object hnames ih

theorem read_writeValue {v : Value} (h : v.IsData) : read (.ofList (writeValue v)) = some v := by
  have hread := readsBack h (Nat.le_succ _) .done
  rw [List.append_nil] at hread
  rw [read, String.toList_ofList, hread]
  rfl

end ObjectChannel.Json
