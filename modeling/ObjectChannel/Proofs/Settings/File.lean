/-
The settings file and the environment. Each line is taken on its own, by what stands before its first equals
sign and behind it, and the lines are gone through in order; what that comes to is said of the whole file.
-/
import ObjectChannel.Proofs.Text.Trim
import ObjectChannel.Settings.Load

namespace ObjectChannel

namespace Text

/-! ## Lines hold what the text holds -/

theorem mem_of_mem_unifyReturns {s : List Char} {c : Char} (h : c ∈ unifyReturns s) :
    c ∈ s ∨ c = '\n' := by
  fun_induction unifyReturns s with
  | case1 => exact .inl h
  | case2 rest ih =>
    rcases List.mem_cons.mp h with rfl | h
    · exact .inr rfl
    · exact (ih h).imp_left fun h => .tail _ (.tail _ h)
  | case3 d rest hpair ih =>
    rcases List.mem_cons.mp h with h | h
    · split at h
      · exact .inr h
      · exact .inl (h ▸ .head _)
    · exact (ih h).imp_left (.tail _)

theorem mem_of_mem_splitLines {line s l : List Char} (hl : l ∈ splitLines line s) {c : Char} (hc : c ∈ l) :
    c ∈ line ∨ c ∈ s := by
  induction s generalizing line with
  | nil =>
    rw [splitLines] at hl
    split at hl
    · exact nomatch hl
    · obtain rfl := List.mem_singleton.mp hl
      exact .inl (List.mem_reverse.mp hc)
  | cons d s ih =>
    rw [splitLines] at hl
    split at hl
    · rcases List.mem_cons.mp hl with rfl | hl
      · exact .inl (List.mem_reverse.mp hc)
      · exact (ih hl).elim (fun h => nomatch h) fun h => .inr (.tail _ h)
    · rcases ih hl with h | h
      · rcases List.mem_cons.mp h with rfl | h
        · exact .inr (.head _)
        · exact .inl h
      · exact .inr (.tail _ h)

theorem mem_of_mem_lines {s l : List Char} (hl : l ∈ lines s) {c : Char} (hc : c ∈ l) : c ∈ s ∨ c = '\n' :=
  (mem_of_mem_splitLines hl hc).elim (fun h => nomatch h) mem_of_mem_unifyReturns

end Text

namespace Environment

open Text

/-! ## One line -/

/-- A line, without the white space around it, is no comment, and what stands before its first equals sign
is the name, and what stands behind it is the value, both without the white space around them, and the
value also without double quotation marks and then single ones. -/
def Assigns (line : List Char) (name value : String) : Prop :=
  ∃ bare left right, Trims isBlank line bare ∧ bare.head? ≠ some '#' ∧ bare = left ++ '=' :: right ∧
    '=' ∉ left ∧ Trims isBlank left name.toList ∧ name ≠ "" ∧
    ∃ v v', Trims isBlank right v ∧ Trims (· == '"') v v' ∧ Trims (· == '\'') v' value.toList

/-- A text taken apart at its first equals sign. -/
theorem eq_append_iff {s left right : List Char} : (s = left ++ '=' :: right ∧ '=' ∉ left) ↔
    '=' ∈ s ∧ left = s.takeWhile (· != '=') ∧ right = (s.dropWhile (· != '=')).drop 1 := by
  constructor
  · rintro ⟨rfl, hleft⟩
    have hname : ∀ c ∈ left, (c != '=') = true := fun c hc => by
      rw [bne_iff_ne]
      rintro rfl
      exact hleft hc
    rw [List.takeWhile_append_of_pos hname, List.dropWhile_append_of_pos hname]
    simp
  · rintro ⟨hs, rfl, rfl⟩
    refine ⟨?_, fun h => absurd (List.mem_takeWhile_imp h) (by decide)⟩
    have hstop := List.head?_dropWhile_not (· != '=') s
    cases h : s.dropWhile (· != '=') with
    | nil => exact absurd (List.dropWhile_eq_nil_iff.mp h '=' hs) (by decide)
    | cons c rest =>
      rw [h] at hstop
      obtain rfl : c = '=' := by simpa using hstop
      rw [List.drop_one, List.tail_cons, ← h, List.takeWhile_append_dropWhile]

/-- The value that the text behind an equals sign denotes. -/
def unquoted (right : List Char) : List Char :=
  trimmed (· == '\'') (trimmed (· == '"') (strip right))

theorem ofLine?_eq (line : List Char) :
    ofLine? line =
      if (strip line).head? ≠ some '#' ∧ '=' ∈ strip line then
        if strip ((strip line).takeWhile (· != '=')) = [] then none
        else some (.ofList (strip ((strip line).takeWhile (· != '='))),
          .ofList (unquoted (((strip line).dropWhile (· != '=')).drop 1)))
      else none := by
  unfold ofLine?
  generalize strip line = bare
  rcases bare with _ | ⟨c, rest⟩
  · rfl
  by_cases hc : c = '#'
  · subst hc
    rfl
  · simp [hc, unquoted]

theorem unquoted_iff {right value : List Char} :
    (∃ v v', Trims isBlank right v ∧ Trims (· == '"') v v' ∧ Trims (· == '\'') v' value) ↔
      value = unquoted right := by
  simp only [trims_iff, exists_and_left, exists_eq_left]
  rfl

theorem ofLine?_eq_some {line : List Char} {name value : String} :
    ofLine? line = some (name, value) ↔ Assigns line name value := by
  rw [ofLine?_eq]
  constructor
  · intro h
    split at h
    next hline =>
      split at h
      next => exact nomatch h
      next hname =>
        obtain ⟨rfl, rfl⟩ := Prod.mk.inj (Option.some.inj h)
        obtain ⟨hsplit, hleft⟩ := eq_append_iff.mpr ⟨hline.2, rfl, rfl⟩
        refine ⟨_, _, _, trims_trimmed isBlank line, hline.1, hsplit, hleft, ?_, ?_, ?_⟩
        · rw [String.toList_ofList]
          exact trims_trimmed _ _
        · rw [ne_eq, ← String.toList_inj, String.toList_ofList]
          exact hname
        · rw [unquoted_iff, String.toList_ofList]
    next => exact nomatch h
  · rintro ⟨bare, left, right, hbare, hcomment, hsplit, hleft, hname, hne, hvalue⟩
    obtain rfl : bare = strip line := hbare.eq
    obtain ⟨hmem, rfl, rfl⟩ := eq_append_iff.mp ⟨hsplit, hleft⟩
    have hname' : name.toList = strip ((strip line).takeWhile (· != '=')) := hname.eq
    have hne' : name.toList ≠ [] := fun h => hne (String.toList_inj.mp h)
    rw [if_pos ⟨hcomment, hmem⟩, ← hname', if_neg hne', ← unquoted_iff.mp hvalue, String.ofList_toList,
      String.ofList_toList]

/-! ## One line after the other -/

theorem Assigns.mem {line : List Char} {name value : String} (h : Assigns line name value) {c : Char} :
    (c ∈ name.toList → c ∈ line ∧ c ≠ '=') ∧ (c ∈ value.toList → c ∈ line) := by
  obtain ⟨bare, left, right, hbare, -, hsplit, hleft, hname, -, v, v', hv, hv', hvalue⟩ := h
  constructor
  · intro hc
    have hmem : c ∈ left := hname.mem hc
    refine ⟨hbare.mem (hsplit ▸ List.mem_append_left _ hmem), ?_⟩
    rintro rfl
    exact hleft hmem
  · intro hc
    have hmem : c ∈ right := hv.mem (hv'.mem (hvalue.mem hc))
    exact hbare.mem (hsplit ▸ List.mem_append_right _ (.tail _ hmem))

theorem Assigns.set {line : List Char} {name value : String} (h : Assigns line name value)
    (hline : '\x00' ∉ line) (env : Environment) : env.set name value = .ok (env.insert name value) := by
  have hname : ('\x00' ∉ name.toList) ∧ '=' ∉ name.toList :=
    ⟨fun hc => hline (h.mem.1 hc).1, fun hc => (h.mem.1 hc).2 rfl⟩
  have hvalue : '\x00' ∉ value.toList := fun hc => hline (h.mem.2 hc)
  have hne : name ≠ "" := by
    obtain ⟨-, -, -, -, -, -, -, -, hne, -⟩ := h
    exact hne
  simp [Environment.set, hasNul, hname, hvalue, hne]

/-- The environment with what a line assigns, if that is not set. -/
def filled (env : Environment) (line : List Char) : Environment :=
  match ofLine? line with
  | some (name, value) => if env.contains name then env else env.insert name value
  | none => env

theorem addLines_eq {lines : List (List Char)} (hlines : ∀ line ∈ lines, '\x00' ∉ line)
    (env : Environment) : addLines env lines = (.ok (), lines.foldl filled env) := by
  induction lines generalizing env with
  | nil => rfl
  | cons line lines ih =>
    have hstep : addLine env line = .ok (filled env line) := by
      unfold addLine filled
      cases h : ofLine? line with
      | none => rfl
      | some entry =>
        have hset := (ofLine?_eq_some.mp h).set (hlines line (.head _)) env
        dsimp only
        split
        · rfl
        · exact hset
    rw [addLines, hstep]
    exact ih (fun l hl => hlines l (.tail _ hl)) (filled env line)

/-- The value that a line assigns to a name. -/
def given? (name : String) (line : List Char) : Option String :=
  match ofLine? line with
  | some (n, value) => if n = name then some value else none
  | none => none

theorem given?_eq_some {name value : String} {line : List Char} :
    given? name line = some value ↔ Assigns line name value := by
  rw [← ofLine?_eq_some, given?]
  split
  next n v h => rw [h]; simp
  next h => simp [h]

theorem get?_filled (env : Environment) (line : List Char) (name : String) :
    (filled env line).get? name = (env.get? name).or (given? name line) := by
  unfold filled given?
  split
  next n value _ =>
    by_cases hn : n = name
    · subst hn
      unfold Table.contains
      cases h : env.get? n with
      | none => simp
      | some old => simp [h]
    · simp only [if_neg hn, Option.or_none]
      split
      · rfl
      · exact Table.get?_insert_other _ _ (Ne.symm hn)
  next => rw [Option.or_none]

theorem get?_foldl_filled (env : Environment) (lines : List (List Char)) (name : String) :
    (lines.foldl filled env).get? name = (env.get? name).or (lines.findSome? (given? name)) := by
  induction lines generalizing env with
  | nil => simp
  | cons line lines ih =>
    rw [List.foldl_cons, ih, get?_filled, Option.or_assoc, List.findSome?_cons]
    cases given? name line <;> rfl

/-- Where all that the lines assign is set, they change nothing. -/
theorem foldl_filled_of_set {env : Environment} {lines : List (List Char)}
    (h : ∀ line ∈ lines, ∀ name value, Assigns line name value → env.contains name = true) :
    lines.foldl filled env = env := by
  induction lines with
  | nil => rfl
  | cons line lines ih =>
    have hstep : filled env line = env := by
      unfold filled
      split
      next name value hline => exact if_pos (h line (.head _) name value (ofLine?_eq_some.mp hline))
      next => rfl
    rw [List.foldl_cons, hstep]
    exact ih fun l hl => h l (.tail _ hl)

theorem foldl_filled_again (env : Environment) (lines : List (List Char)) :
    lines.foldl filled (lines.foldl filled env) = lines.foldl filled env := by
  refine foldl_filled_of_set fun line hline name value hassigns => ?_
  have hsome : (lines.findSome? (given? name)).isSome = true :=
    List.findSome?_isSome_iff.mpr ⟨line, hline, by rw [given?_eq_some.mpr hassigns]; rfl⟩
  rw [Table.contains, get?_foldl_filled, Option.isSome_or, hsome, Bool.or_true]

/-- The value that the first of the lines to assign one to the name assigns to it. -/
def FirstAssigns (lines : List (List Char)) (name value : String) : Prop :=
  ∃ before line after, lines = before ++ line :: after ∧ Assigns line name value ∧
    ∀ l ∈ before, ∀ v, ¬Assigns l name v

theorem findSome?_given {lines : List (List Char)} {name value : String} :
    lines.findSome? (given? name) = some value ↔ FirstAssigns lines name value := by
  have hnone (l : List Char) : given? name l = none ↔ ∀ v, ¬Assigns l name v := by
    simp only [← given?_eq_some, Option.eq_none_iff_forall_ne_some]
  simp only [List.findSome?_eq_some_iff, given?_eq_some, hnone]
  rfl

/-! ## The whole file -/

theorem fromUTF8?_toUTF8 (s : String) : String.fromUTF8? s.toUTF8 = some s := by
  have hvalid : s.toUTF8.IsValidUTF8 := s.isValidUTF8
  rw [String.fromUTF8?, dif_pos hvalid]
  rfl

theorem build_of_file {s : SettingsSource} {env : Environment}
    (h : Environment.addFile s.environment s.file = (.ok (), env)) :
    (s.build.1.map (·.settings)) = Settings.ofEnvironment env ∧ s.build.2.environment = env ∧
      s.build.2.file = s.file := by
  unfold SettingsSource.build
  rw [h]
  dsimp only
  cases hsettings : Settings.ofEnvironment env with
  | error e => exact ⟨rfl, rfl, rfl⟩
  | ok settings => exact ⟨rfl, rfl, rfl⟩

/-- **The settings file fills the gaps of the environment.** What is set stays, also if it is set to nothing;
of what is not set, the first line of the file to assign a value to it decides; nothing else is set; and a
second time the file changes nothing, so that settings built anew are the same, or fail the same way. -/
theorem fills_gaps (env : Environment) (text : String) (htext : '\x00' ∉ text.toList) :
    ∃ env', addFile env (some text.toUTF8) = (.ok (), env') ∧
      (∀ name value, env.get? name = some value → env'.get? name = some value) ∧
      (∀ name, env.get? name = none → ∀ value,
        env'.get? name = some value ↔ FirstAssigns (Text.lines text.toList) name value) ∧
      addFile env' (some text.toUTF8) = (.ok (), env') ∧
      ∀ source : SettingsSource, source.environment = env → source.file = some text.toUTF8 →
        source.build.2.environment = env' ∧ source.build.2.build.2.environment = env' ∧
          source.build.2.build.1.map (·.settings) = source.build.1.map (·.settings) := by
  have hlines : ∀ line ∈ Text.lines text.toList, '\x00' ∉ line := fun line hline hc =>
    (Text.mem_of_mem_lines hline hc).elim htext (by decide)
  have hfile (e : Environment) : addFile e (some text.toUTF8) =
      (.ok (), (Text.lines text.toList).foldl filled e) := by
    unfold addFile
    simp only [fromUTF8?_toUTF8]
    exact addLines_eq hlines e
  have hagain := hfile ((Text.lines text.toList).foldl filled env)
  rw [foldl_filled_again] at hagain
  refine ⟨_, hfile env, fun name value h => ?_, fun name h value => ?_, hagain, fun source henv hdata => ?_⟩
  · rw [get?_foldl_filled, h, Option.some_or]
  · rw [get?_foldl_filled, h, Option.none_or, findSome?_given]
  · obtain ⟨hfirst, hfirstEnv, hfirstFile⟩ := build_of_file (s := source)
      (by rw [henv, hdata]; exact hfile env)
    obtain ⟨hsecond, hsecondEnv, -⟩ := build_of_file (s := source.build.2)
      (by rw [hfirstEnv, hfirstFile, hdata]; exact hagain)
    exact ⟨hfirstEnv, hsecondEnv, hsecond.trans hfirst.symm⟩

theorem fills_gaps_of_repeated_names :
    let env : Environment := Table.empty.insert "A" ""
    let text := "# A=1\nA=x\r\n B =  \"q=1\" \n=3\nB=2\nlone\nC=' c'"
    ∃ env', addFile env (some text.toUTF8) = (.ok (), env') ∧
      env'.get? "A" = some "" ∧ env'.get? "B" = some "q=1" ∧ env'.get? "C" = some " c" ∧
      env'.get? "lone" = none ∧ addFile env' (some text.toUTF8) = (.ok (), env') := by
  intro env text
  obtain ⟨env', hfile, hkept, hset, hagain, -⟩ := fills_gaps env text (by decide +kernel)
  have hlone : (Text.lines text.toList).findSome? (given? "lone") = none := by decide +kernel
  refine ⟨env', hfile, hkept "A" "" rfl, (hset "B" rfl _).mpr (findSome?_given.mp (by decide +kernel)),
    (hset "C" rfl _).mpr (findSome?_given.mp (by decide +kernel)), ?_, hagain⟩
  rw [Option.eq_none_iff_forall_ne_some]
  intro value h
  exact nomatch hlone.symm.trans (findSome?_given.mpr ((hset "lone" rfl value).mp h))

end Environment
end ObjectChannel
