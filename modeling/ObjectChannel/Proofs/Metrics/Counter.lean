/-
What each counter owes to what passes between channels and their store, and to the reads of readers.

Over a store with a record, the balance of a counter is what it says less what it owes to the record.
Writers keep every balance, since they count each request as it comes to an end. Readers keep all but the
one of the counter that goes by what a read returns, and mirrored channels all but those that go by their
own work: what they fetch when they are opened, and how often they are synchronised.
-/
import ObjectChannel.Proofs.Reader.Loss
import ObjectChannel.Proofs.Settled

namespace ObjectChannel

variable {σ τ : Type}

/-- The counters, by what they count. -/
inductive Counter where
  | multipartBytes
  | putBytes
  | parallelBytes
  | partsUploaded
  | aborts
  | rangeBytes
  | mirroredBytes
  | putSyncs
  | parallelSyncs
  deriving DecidableEq

/-- What a counter says. -/
def Metrics.value (m : Metrics) : Counter → Nat
  | .multipartBytes => m.multipartBytes
  | .putBytes => m.putBytes
  | .parallelBytes => m.parallelBytes
  | .partsUploaded => m.partsUploaded
  | .aborts => m.aborts
  | .rangeBytes => m.rangeBytes
  | .mirroredBytes => m.mirroredBytes
  | .putSyncs => m.putSyncs
  | .parallelSyncs => m.parallelSyncs

/-- What is owed to an exchange, whichever channel it is of: the bytes and the number of the parts that
the store has taken, the bytes of the objects that it has stored from one request or from a file, and
every abort that was asked for, whatever came of it. -/
def Exchange.owes : Exchange τ → Counter → Nat
  | .call (.uploadPart _ _ _ body _ _) (.ok _), .multipartBytes => body.size
  | .call (.uploadPart ..) (.ok _), .partsUploaded => 1
  | .call (.put _ _ length _) (.ok _), .putBytes => length
  | .call (.uploadFile _ _ content _ _) (.ok _), .parallelBytes => content.size
  | .call (.abortUpload _ _) _, .aborts => 1
  | _, _ => 0

/-- What is owed to an exchange of a mirrored channel that is being closed: the attempt at sending the
mirror back, whatever came of it. -/
def Exchange.synchronises : Exchange τ → Counter → Nat
  | .call (.put ..) _, .putSyncs => 1
  | .call (.uploadFile ..) _, .parallelSyncs => 1
  | _, _ => 0

theorem Exchange.value_addedTo (m : Metrics) (x : Exchange τ) (k : Counter) :
    (x.addedTo m).value k = m.value k + x.owes k := by
  cases x with
  | closing => rfl
  | call r x => cases r <;> cases x <;> cases k <;> rfl

theorem Exchange.owes_rangeBytes (x : Exchange τ) : x.owes .rangeBytes = 0 := by
  cases x with
  | closing => rfl
  | call r x => cases r <;> cases x <;> rfl

/-! ## Balances -/

/-- What a counter says, less what it owes to the record. -/
def balance (k : Counter) (W : World (Recorded σ τ)) : Int :=
  W.metrics.value k - ((W.store.log.map (Exchange.owes · k)).sum : Nat)

theorem balance_counted (k : Counter) (W : World (Recorded σ τ)) {g : Metrics → Metrics} {n : Nat}
    (hg : ∀ m, (g m).value k = m.value k + n) : balance k (W.counted g) = balance k W + n := by
  have h := hg W.metrics
  simp only [balance, World.counted, h]
  omega

/-- **A request that is counted leaves every balance as it is.** -/
theorem settles_balance (b : Backend σ τ) (k : Counter) : b.recorded.Settles (balance k) where
  logged _ _ := rfl
  answered W r := by
    have hlog : (W.answered b.recorded r).store.log =
        W.store.log ++ [.call r (b.recorded.call r W.store).1] := by
      rw [World.answered_store]
      rfl
    have hanswered : balance k (W.answered b.recorded r) =
        balance k W - (Exchange.call r (b.recorded.call r W.store).1).owes k := by
      simp only [balance, hlog, World.answered_metrics, List.map_append, List.map_cons, List.map_nil,
        List.sum_append, List.sum_cons, List.sum_nil]
      omega
    rw [balance_counted k _ fun m => Exchange.value_addedTo m _ k, hanswered]
    omega
  closed W t := by
    have hlog : (b.recorded.close t W.store).2.log =
        W.store.log ++ [.closing t (b.recorded.close t W.store).1] := rfl
    simp only [balance, hlog, List.map_append, List.map_cons, List.map_nil, List.sum_append,
      List.sum_cons, List.sum_nil, Exchange.owes]
    omega

/-! ## Reads -/

namespace Reader

/-- How many bytes a read into a destination returns, if it goes well. -/
def countOf (b : Backend σ τ) (buffer : Bytes) (s : Reader × World σ) : Option Nat :=
  match (readInto b buffer s).1 with
  | .ok filled => filled.outcome.toOption
  | .error _ => none

end Reader

/-- How many bytes reads into a destination of the given size return, one after the other, up to the one
that returns none or fails. Nothing comes of reads without end. -/
def Backend.countsOf (b : Backend σ τ) (capacity : Nat) (s : Reader × World σ) : Option (List Nat) :=
  match Reader.countOf b (.zeros capacity) s with
  | none => some []
  | some 0 => some [0]
  | some (n + 1) => do
    return (n + 1) :: (← b |>.countsOf capacity (Reader.readInto b (.zeros capacity) s).2)
partial_fixpoint

namespace Reader

/-- How many bytes are returned by the reads into a destination that an operation makes and that go well:
the one that it is, or those that a read makes into destinations of its own. -/
def counts (b : Backend σ τ) (limits : Limits) (s : Reader × World σ) : Operation → List Nat
  | .readInto buffer => (countOf b buffer s).toList
  | .read size =>
    match limits.platform.capacity Capacity.maxSize (destination limits.readSize size) with
    | .error _ => []
    | .ok k =>
      if size.getD (-1) < 0 then (b.countsOf k s).getD []
      else (countOf b (.zeros k) s).toList
  | _ => []

variable {b : Backend σ τ} {limits : Limits}

theorem settles_rangeBytes (b : Backend σ τ) : b.Settles (·.metrics.rangeBytes) where
  logged _ _ := rfl
  answered W r := by
    show (Exchange.addedTo (W.answered b r).metrics _).rangeBytes = _
    have h := Exchange.value_addedTo (W.answered b r).metrics (.call r (b.call r W.store).1) .rangeBytes
    rw [Exchange.owes_rangeBytes, World.answered_metrics] at h
    rw [World.answered_metrics]
    exact h
  closed _ _ := rfl

theorem fetch_ok (capacity : Nat) (s : Reader × World σ) :
    ∃ got s', fetch b capacity s = (.ok got, s') := by
  obtain ⟨r, W⟩ := s
  simp only [fetch, Action.bind_apply, World.log_apply, World.request_apply]
  rcases (b.call (.get r.object (some (r.position, r.position + capacity))) _).1 with e | t <;>
    exact ⟨_, _, rfl⟩

/-- How many bytes a fetch has brought, if it has gone well. -/
def Fetched.count? (f : Fetched) : Option Nat := (f.outcome.map fun _ => f.bytes.size).toOption

/-- A fetch counts what it brings, if it goes well. -/
theorem fetchUpTo_counts (capacity : Nat) (s : Reader × World σ) :
    ∃ got s', fetchUpTo b capacity s = (.ok got, s') ∧
      s'.2.metrics.rangeBytes = s.2.metrics.rangeBytes + got.count?.getD 0 := by
  cases hclosed : s.1.closed with
  | true => exact ⟨_, _, fetchUpTo_of_closed hclosed capacity, rfl⟩
  | false =>
    by_cases hc : capacity = 0
    · refine ⟨⟨.empty, .ok ()⟩, s, ?_, rfl⟩
      simp only [fetchUpTo, Action.bind_apply, ChannelAction.this_apply, hclosed, hc,
        Bool.false_eq_true, ite_false, ite_true]
      rfl
    · obtain ⟨got, s', hfetch⟩ := fetch_ok (b := b) capacity s
      have hkept : s'.2.metrics.rangeBytes = s.2.metrics.rangeBytes := by
        have h := fetch_keeps (settles_rangeBytes b) capacity s
        rwa [hfetch] at h
      simp only [fetchUpTo, Action.bind_apply, ChannelAction.this_apply, hclosed, hc,
        Bool.false_eq_true, ite_false, hfetch]
      cases hout : got.outcome with
      | error e =>
        exact ⟨got, s', rfl, by simpa [Fetched.count?, hout, Except.map, Except.toOption] using hkept⟩
      | ok u =>
        refine ⟨got, _, rfl, ?_⟩
        show s'.2.metrics.rangeBytes + got.bytes.size = _
        rw [hkept]
        simp [Fetched.count?, hout, Except.map, Except.toOption]

theorem countOf_apply {buffer : Bytes} {s s' : Reader × World σ} {got : Fetched}
    (h : fetchUpTo b buffer.size s = (.ok got, s')) :
    countOf b buffer s = got.count? ∧ (readInto b buffer s).2 = s' := by
  rw [countOf, readInto_apply h]
  exact ⟨rfl, rfl⟩

/-- **A read into a destination counts what it returns.** -/
theorem readInto_rangeBytes (buffer : Bytes) (s : Reader × World σ) :
    (readInto b buffer s).2.2.metrics.rangeBytes =
      s.2.metrics.rangeBytes + (countOf b buffer s).getD 0 := by
  obtain ⟨got, s', hfetch, hcount⟩ := fetchUpTo_counts (b := b) buffer.size s
  obtain ⟨hgot, hs⟩ := countOf_apply hfetch
  rw [hgot, hs, hcount]

/-- A chunk is a read into a destination of its size. -/
theorem readChunk_eq (capacity : Nat) (s : Reader × World σ) :
    (readChunk b capacity s).2 = (readInto b (.zeros capacity) s).2 ∧
      ((readChunk b capacity s).1.map (·.size)).toOption = countOf b (.zeros capacity) s := by
  obtain ⟨got, s', hfetch, -⟩ := fetchUpTo_counts (b := b) capacity s
  have hsize : (Bytes.zeros capacity).size = capacity := by
    rw [← Bytes.length_toList, Bytes.toList_zeros, List.length_replicate]
  have hfetch' : fetchUpTo b (Bytes.zeros capacity).size s = (.ok got, s') := by rw [hsize, hfetch]
  obtain ⟨hgot, hs⟩ := countOf_apply hfetch'
  rw [readChunk_apply hfetch, hs, hgot]
  refine ⟨rfl, ?_⟩
  cases h : got.outcome <;> simp [Fetched.count?, h, Except.map, Except.toOption]

/-- Reading on, as reads into destinations. -/
theorem readOn_counts (capacity : Nat) (got : Bytes) (s : Reader × World σ)
    {r : Except Failure Bytes × (Reader × World σ)} (h : b.readOn capacity got s = some r) :
    ∃ ns, b.countsOf capacity s = some ns ∧
      r.2.2.metrics.rangeBytes = s.2.metrics.rangeBytes + ns.sum := by
  refine Backend.readOn.partial_correctness b capacity (fun _ s r => ∃ ns, b.countsOf capacity s = some ns ∧
      r.2.2.metrics.rangeBytes = s.2.metrics.rangeBytes + ns.sum) ?_ got s r h
  intro rest ih got s r h
  obtain ⟨hstate, hcount⟩ := readChunk_eq (b := b) capacity s
  have hrange := readInto_rangeBytes (b := b) (.zeros capacity) s
  rw [← hstate] at hrange
  rw [Backend.countsOf, ← hcount, ← hstate]
  rw [← hcount] at hrange
  rcases hc : readChunk b capacity s with ⟨e | chunk, s'⟩ <;> rw [hc] at h hrange
  · cases h
    exact ⟨[], rfl, hrange⟩
  · cases hsize : chunk.size with
    | zero =>
      have hempty : chunk.isEmpty = true := Bytes.isEmpty_iff.mpr hsize
      simp only [hempty, ite_true] at h
      cases h
      refine ⟨[0], by simp [Except.map, Except.toOption, hsize], ?_⟩
      rw [hrange]
      simp [Except.map, Except.toOption, hsize]
    | succ n =>
      have hempty : chunk.isEmpty = false := Bytes.isEmpty_eq_false (by omega)
      simp only [hempty, Bool.false_eq_true, ite_false] at h
      obtain ⟨ns, hns, hrest⟩ := ih _ _ _ h
      refine ⟨(n + 1) :: ns, by simp [Except.map, Except.toOption, hsize, hns], ?_⟩
      rw [hrest, hrange]
      simp [Except.map, Except.toOption, hsize]
      omega

/-- Reads that come to an end are those of a reading on that comes to one. -/
theorem readOn_isSome {capacity : Nat} {s : Reader × World σ} {ns : List Nat}
    (h : b.countsOf capacity s = some ns) (got : Bytes) : (b.readOn capacity got s).isSome = true := by
  refine Backend.countsOf.partial_correctness b capacity
    (fun s _ => ∀ got, (b.readOn capacity got s).isSome = true) ?_ s ns h got
  intro rest ih s ns h got
  obtain ⟨hstate, hcount⟩ := readChunk_eq (b := b) capacity s
  rw [Backend.readOn]
  rw [← hcount, ← hstate] at h
  rcases hc : readChunk b capacity s with ⟨e | chunk, s'⟩
  · rfl
  · rw [hc] at h
    cases hsize : chunk.size with
    | zero => simp [Bytes.isEmpty_iff.mpr hsize]
    | succ n =>
      simp only [Except.map, Except.toOption, hsize, Option.bind_eq_bind, Option.bind_eq_some_iff] at h
      obtain ⟨ns', hrest, -⟩ := h
      have hempty : chunk.isEmpty = false := Bytes.isEmpty_eq_false (by omega)
      simp only [hempty, Bool.false_eq_true, ite_false]
      exact ih _ _ hrest _

/-- **An operation of a reader counts what its reads into a destination return.** -/
theorem performReader_rangeBytes (e : Channel.Setting σ τ) (op : Operation) (s : Reader × World σ) :
    (Channel.performReader e op s).2.2.metrics.rangeBytes =
      s.2.metrics.rangeBytes + (counts e.backend e.limits s op).sum := by
  obtain ⟨b, limits, names⟩ := e
  have hsum (n : Option Nat) : n.toList.sum = n.getD 0 := by cases n <;> simp
  cases op with
  | readInto buffer =>
    simp only [Channel.performReader, Action.map_state, counts, hsum]
    exact readInto_rangeBytes buffer s
  | read size =>
    simp only [Channel.performReader, Action.map_state, counts, read_apply]
    cases limits.platform.capacity Capacity.maxSize (destination limits.readSize size) with
    | error e => rfl
    | ok k =>
      by_cases hrest : size.getD (-1) < 0
      · simp only [hrest, ite_true]
        cases hon : b.readOn k .empty s with
        | some r =>
          obtain ⟨ns, hns, hcount⟩ := readOn_counts k .empty s hon
          simp only [hns, Option.getD_some]
          exact hcount
        | none =>
          cases hns : b.countsOf k s with
          | none => rfl
          | some ns => exact absurd (readOn_isSome hns .empty) (by simp [hon])
      · simp only [hrest, ite_false, hsum]
        rw [(readChunk_eq k s).1]
        exact readInto_rangeBytes _ s
  | seek offset whence =>
    exact (seek_keeps (f := (·.metrics.rangeBytes)) offset whence).bind (fun _ => .pure _) s
  | setPosition p => exact (seek_keeps (f := (·.metrics.rangeBytes)) p 0).bind (fun _ => .pure _) s
  | position | tell => exact (tell_keeps (f := (·.metrics.rangeBytes))).bind (fun _ => .pure _) s
  | _ => rfl

/-- The balance of a reader: it counts what its reads return, and the rest is as it was. -/
theorem performReader_balance (e : Channel.Setting σ τ) (op : Operation) (k : Counter)
    (s : Reader × World (Recorded σ τ)) :
    balance k (Channel.performReader e.recorded op s).2.2 =
      balance k s.2 +
        ((if k = .rangeBytes then (counts e.recorded.backend e.limits s op).sum else 0 : Nat) : Int) := by
  by_cases hk : k = .rangeBytes
  · subst hk
    have hcount := performReader_rangeBytes e.recorded op s
    have hbalance (W : World (Recorded σ τ)) : balance .rangeBytes W = W.metrics.rangeBytes := by
      have hnone : (W.store.log.map (Exchange.owes · .rangeBytes)).sum = 0 :=
        List.sum_eq_zero fun n hn => by
          obtain ⟨x, -, rfl⟩ := List.mem_map.mp hn
          exact x.owes_rangeBytes
      simp [balance, hnone, Metrics.value]
    rw [hbalance, hbalance, if_pos rfl]
    exact_mod_cast hcount
  · rw [if_neg hk]
    refine (performReader_keeps (settles_balance e.backend k) (fun W n => ?_) e.names op s).trans (by simp)
    refine (balance_counted (n := 0) k W fun m => ?_).trans (by simp)
    cases k <;> first | rfl | exact absurd rfl hk

end Reader

end ObjectChannel
