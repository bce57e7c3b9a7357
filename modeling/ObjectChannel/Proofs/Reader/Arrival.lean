/-
What a read into a destination takes from a stream, whatever the stream does: the chunks up to one that
is empty or does not fit, up to a read that fails, or up to a full destination. They lie at the front of
the destination, which keeps its other bytes; the cursor is behind them, and the stream has been closed
once.
-/
import Mathlib
import ObjectChannel.Proofs.Reader.Refinement
import ObjectChannel.Proofs.Report

namespace ObjectChannel

variable {σ τ : Type} {b : Backend σ τ}

/-! ## Chunks of a stream -/

/-- Why no more chunks are taken from a stream. -/
inductive Stop where
  /-- There is no room left. -/
  | full
  /-- The next chunk is empty. -/
  | drained
  /-- The next chunk has more bytes than there is room for. -/
  | tooLong
  | broken (e : Failure)

/-- What has gone wrong there. -/
def Stop.failure? : Stop → Option Failure
  | .full | .drained => none
  | .tooLong => some .chunkTooLong
  | .broken e => some e

/-- A stream gives chunks for so much room, each of which is asked for with the room that is left, and
then there is a stop. -/
inductive Backend.Gives (b : Backend σ τ) : τ → (room : Nat) → List Bytes → Stop → τ → Prop where
  | full {t} : Gives b t 0 [] .full t
  | broken {t room e} (hroom : room ≠ 0) (h : b.read t (some room) = .error e) :
    Gives b t room [] (.broken e) t
  | drained {t room chunk t'} (hroom : room ≠ 0) (h : b.read t (some room) = .ok (chunk, t'))
    (hchunk : chunk.size = 0) : Gives b t room [] .drained t'
  | tooLong {t room chunk t'} (hroom : room ≠ 0) (h : b.read t (some room) = .ok (chunk, t'))
    (hchunk : room < chunk.size) : Gives b t room [] .tooLong t'
  | more {t room chunk t' chunks stop t''} (h : b.read t (some room) = .ok (chunk, t'))
    (hchunk : chunk.size ≠ 0) (hfits : chunk.size ≤ room)
    (rest : Gives b t' (room - chunk.size) chunks stop t'') : Gives b t room (chunk :: chunks) stop t''

namespace Backend

theorem exists_gives (b : Backend σ τ) (t : τ) (room : Nat) :
    ∃ chunks stop t', b.Gives t room chunks stop t' := by
  induction room using Nat.strongRecOn generalizing t with
  | _ room ih =>
    by_cases hroom : room = 0
    · subst hroom
      exact ⟨[], .full, t, .full⟩
    cases hread : b.read t (some room) with
    | error e => exact ⟨[], .broken e, t, .broken hroom hread⟩
    | ok r =>
      obtain ⟨chunk, t'⟩ := r
      by_cases hchunk : chunk.size = 0
      · exact ⟨[], .drained, t', .drained hroom hread hchunk⟩
      by_cases hlong : room < chunk.size
      · exact ⟨[], .tooLong, t', .tooLong hroom hread hlong⟩
      · obtain ⟨chunks, stop, t'', hrest⟩ := ih (room - chunk.size) (by omega) t'
        exact ⟨chunk :: chunks, stop, t'', .more hread hchunk (by omega) hrest⟩

namespace Gives

variable {t t' : τ} {room : Nat} {chunks : List Bytes} {stop : Stop}

theorem size_le (h : b.Gives t room chunks stop t') : (Bytes.concat chunks).size ≤ room := by
  induction h with
  | more h hchunk hfits rest ih =>
    rw [Bytes.concat_cons, ByteArray.size_append]
    omega
  | _ => exact Nat.zero_le _

/-- The record changes no stream. -/
theorem recorded (h : b.Gives t room chunks stop t') : b.recorded.Gives t room chunks stop t' := by
  induction h with
  | full => exact .full
  | broken hroom h => exact .broken hroom h
  | drained hroom h hchunk => exact .drained hroom h hchunk
  | tooLong hroom h hchunk => exact .tooLong hroom h hchunk
  | more h hchunk hfits _ ih => exact .more h hchunk hfits ih

end Gives

end Backend

namespace Reader

open ChannelAction

variable {t t' : τ} {room : Nat} {chunks : List Bytes} {stop : Stop}

theorem drain_of_gives (h : b.Gives t room chunks stop t') (got : Bytes) :
    drain b t room got =
      ⟨got ++ Bytes.concat chunks, stop.failure?.elim (.ok ()) .error, t'⟩ := by
  have hnone : got = got ++ Bytes.concat [] := ByteArray.append_empty.symm
  induction h generalizing got with
  | full =>
    rw [drain, if_pos rfl, ← hnone]
    rfl
  | broken hroom h =>
    rw [drain, if_neg hroom, h, ← hnone]
    rfl
  | drained hroom h hchunk =>
    rw [drain, if_neg hroom, h]
    simp only [hchunk, ite_true, ← hnone]
    rfl
  | tooLong hroom h hchunk =>
    rw [drain, if_neg hroom, h]
    simp only [hchunk, ite_true, ← hnone]
    rw [if_neg (by omega)]
    rfl
  | more h hchunk hfits rest ih =>
    rw [drain, if_neg (by omega), h]
    simp only [hchunk, ite_false]
    rw [if_neg (by omega), ih _ ByteArray.append_empty.symm, Bytes.concat_cons,
      ByteArray.append_assoc]

/-! ## Fetching from any stream -/

/-- What brings a read down: that its stream cannot be closed, or else what was wrong with the stream. -/
def cause? (stop : Stop) (closed : Except Failure Unit) : Option Failure :=
  (failureOf closed).or stop.failure?

/-- How a read ends that has taken so many bytes, where `cause` has brought it down or nothing has. -/
def verdict (o : ObjectId) (n : Nat) : (cause : Option Failure) → Except Failure Nat
  | none => .ok n
  | some e => .error (e.raisedIn .readRange o)

theorem report_ending (o : ObjectId) (stop : Stop) (closed : Except Failure Unit) (n : Nat) :
    (report o (ending closed (stop.failure?.elim (.ok ()) .error))).map (fun _ => n) =
      verdict o n (cause? stop closed) := by
  cases closed with
  | error e => rfl
  | ok u => cases h : stop.failure? <;> simp only [ending, cause?, failureOf, h] <;> rfl

/-- The request for the range behind the cursor. -/
def rangeRequest (r : Reader) (capacity : Nat) : Request :=
  .get r.object (some (r.position, r.position + capacity))

variable {r : Reader} {W : World σ} {capacity : Nat} {st : σ}

theorem fetchUpTo_of_refused (hopen : r.closed = false) (hroom : capacity ≠ 0) {e : Failure}
    (hcall : b.call (rangeRequest r capacity) W.store = (.error e, st)) :
    ∃ W', fetchUpTo b capacity (r, W) =
      (.ok ⟨.empty, .error (e.raisedIn .readRange r.object)⟩, (r, W')) ∧ W'.store = st := by
  simp only [rangeRequest] at hcall
  simp only [fetchUpTo, fetch, Action.bind_apply, this_apply, hopen, hroom, Bool.false_eq_true,
    ite_false, World.log_apply, World.request_apply, World.logged_store, hcall]
  refine ⟨_, rfl, ?_⟩
  rw [World.answered_store, World.logged_store, hcall]

/-- What a stream gives is fetched, and the stream is closed. -/
theorem fetchUpTo_of_gives (hopen : r.closed = false) (hroom : capacity ≠ 0)
    (hcall : b.call (rangeRequest r capacity) W.store = (.ok t, st))
    (hgives : b.Gives t capacity chunks stop t') :
    ∃ outcome W', fetchUpTo b capacity (r, W) =
        (.ok ⟨Bytes.concat chunks, outcome⟩,
          ({ r with position := r.position + (Bytes.concat chunks).size }, W')) ∧
      outcome.map (fun _ => (Bytes.concat chunks).size) =
        verdict r.object (Bytes.concat chunks).size (cause? stop (b.close t' st).1) ∧
      W'.store = (b.close t' st).2 := by
  simp only [rangeRequest] at hcall
  have hdrain := drain_of_gives hgives .empty
  rw [ByteArray.empty_append] at hdrain
  obtain ⟨outcome, houtcome⟩ : ∃ outcome, outcome =
      report r.object (ending (b.close t' st).1 (stop.failure?.elim (.ok ()) .error)) := ⟨_, rfl⟩
  have hfetch : ∃ W', fetch b capacity (r, W) =
      (.ok ⟨Bytes.concat chunks, outcome⟩,
        ({ r with position := r.position + (Bytes.concat chunks).size }, W')) ∧
      W'.store = (b.close t' st).2 := by
    simp only [fetch, Action.bind_apply, World.log_apply, World.request_apply, World.logged_store,
      hcall, hdrain, World.onStore_apply, World.answered_store, houtcome]
    exact ⟨_, rfl, rfl⟩
  obtain ⟨W', hfetch, hstore⟩ := hfetch
  rw [← report_ending, ← houtcome]
  simp only [fetchUpTo, Action.bind_apply, this_apply, hopen, hroom, Bool.false_eq_true, ite_false,
    hfetch]
  cases outcome with
  | error e => exact ⟨_, _, rfl, rfl, hstore⟩
  | ok u => exact ⟨_, _, rfl, rfl, hstore⟩

/-! ## Reading into a destination -/

/-- What a read into a destination can come to, with what passed between the reader and its store. -/
inductive Filling (b : Backend σ τ) (buffer : Bytes) (r : Reader) (W : World (Recorded σ τ)) :
    Except Failure Filled × (Reader × World (Recorded σ τ)) → Prop where
  /-- The range was refused: there is nothing to close, and the reader is where it was. -/
  | refused {e W'}
    (hpassed : W'.store.log = W.store.log ++ [.call (rangeRequest r buffer.size) (.error e)]) :
    Filling b buffer r W (.ok ⟨buffer, .error (e.raisedIn .readRange r.object)⟩, (r, W'))
  /-- What the stream gave was taken, and the stream was closed. -/
  | taken {t chunks stop t' closed arrived buffer' W'}
    (hgives : b.Gives t buffer.size chunks stop t')
    (hpassed : W'.store.log = W.store.log ++
      [.call (rangeRequest r buffer.size) (.ok t), .closing t' closed])
    (harrived : arrived = Bytes.concat chunks)
    (hfits : arrived.size ≤ buffer.size)
    (hbuffer : buffer'.toList = arrived.toList ++ buffer.toList.drop arrived.size) :
    Filling b buffer r W (.ok ⟨buffer', verdict r.object arrived.size (cause? stop closed)⟩,
      ({ r with position := r.position + arrived.size }, W'))

/-- **A read into a destination takes what the stream gives.** Whatever the stream does, the bytes that
are taken lie at the front of the destination and all behind them is as it was, the cursor is behind the
bytes that were taken, and the stream has been closed once. The read tells their number if nothing went
wrong, and fails otherwise. -/
theorem readInto_filling (b : Backend σ τ) (buffer : Bytes) (hroom : 0 < buffer.size) {r : Reader}
    (hopen : r.closed = false) (W : World (Recorded σ τ)) :
    Filling b buffer r W (readInto b.recorded buffer (r, W)) := by
  have hroom : buffer.size ≠ 0 := by omega
  rcases hcall : b.call (rangeRequest r buffer.size) W.store.store with ⟨x, st⟩
  have hrecorded : b.recorded.call (rangeRequest r buffer.size) W.store =
      (x, ⟨st, W.store.log ++ [.call (rangeRequest r buffer.size) x]⟩) := by
    simp only [Backend.recorded, hcall]
  cases x with
  | error e =>
    obtain ⟨W', hfetch, hstore⟩ := fetchUpTo_of_refused hopen hroom hrecorded
    have hsame : buffer.overwrite 0 .empty = buffer :=
      Bytes.ext_toList (by simp [Bytes.toList_overwrite])
    rw [readInto_apply hfetch, hsame]
    exact .refused (by rw [hstore])
  | ok t =>
    obtain ⟨chunks, stop, t', hgives⟩ := b.exists_gives t buffer.size
    obtain ⟨outcome, W', hfetch, houtcome, hstore⟩ :=
      fetchUpTo_of_gives hopen hroom hrecorded hgives.recorded
    rw [readInto_apply hfetch, houtcome]
    refine .taken hgives ?_ rfl hgives.size_le ?_
    · rw [hstore]
      simp [Backend.recorded]
    · simp [Bytes.toList_overwrite]

/-- A store in memory whose streams break after two bytes, and cannot be closed. -/
def stuck : Backend Store.MemoryStore Store.Stream :=
  Store.memoryBackend .none fun _ => { failAfter := some 2, closeFails := true }

/-- Two of three bytes arrive, and it is the closing that the read is brought down by. -/
theorem readInto_filling_of_stuck_stream :
    let r : Reader := { object := ⟨"bucket", "key"⟩, position := 1 }
    let W : World (Recorded Store.MemoryStore Store.Stream) := { store := { store := fiveBytes.store } }
    ∃ W', Filling stuck ⟨#[9, 9, 9]⟩ r W
      (.ok ⟨⟨#[2, 3, 9]⟩,
          .error (.transferFailed .readRange r.object (.store "close failed" none))⟩,
        ({ r with position := 3 }, W')) := by
  intro r W
  have hread : readInto stuck.recorded ⟨#[9, 9, 9]⟩ (r, W) =
      (.ok ⟨⟨#[2, 3, 9]⟩,
          .error (.transferFailed .readRange r.object (.store "close failed" none))⟩,
        ({ r with position := 3 }, (readInto stuck.recorded ⟨#[9, 9, 9]⟩ (r, W)).2.2)) := by
    cbv
  have hfilling := readInto_filling stuck ⟨#[9, 9, 9]⟩ (by decide) (r := r) rfl W
  rw [hread] at hfilling
  exact ⟨_, hfilling⟩

end Reader

end ObjectChannel
