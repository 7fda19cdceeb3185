import XredisGtid.RingBuffer
import XredisGtid.SyncSpec

/-!
# Sending a slice of the backlog

The backlog is a ring of `size` bytes, `idx` the position the next byte goes to; its last
`histlen` bytes are those of the stream from offset `off` on (`ReplBuffer.Holds`).
`consumeReplicationBacklogLimited` hands a slice of the stream to a callback in pieces, each
a stretch of the ring that does not pass its end.  A piece is kept as its position and
length.

The positions are sums of two numbers of at most `size`; the ring is allocated, so they
are far from the end of `long long` and are taken as they are.
-/
namespace XredisGtid
open Buffer RingBuffer

structure ReplBuffer extends ReplBacklog where
  idx : Int
  bytes : Bytes

/-- The loop of `consumeReplicationBacklogLimited`: the pieces handed to the callback, and
the number of bytes in them. -/
def consumeFrom (size : Int) : Nat → Int → Int → Option (List (Int × Int) × Int)
  | 0, _, _ => none
  | fuel + 1, j, len =>
    if len = 0 then some ([], 0)
    else do
      let thislen := if size - j < len then size - j else len
      let (pieces, added) ← consumeFrom size fuel 0 (len - thislen)
      some ((j, thislen) :: pieces, thislen + added)

def consumeReplicationBacklogLimited (backlog : ReplBuffer) (offset limit : Int) :
    Option (List (Int × Int) × Int) := do
  guard (limit ≥ 0 ∧ offset ≥ backlog.off)
  if backlog.histlen = 0 then some ([], 0)
  else
    let skip := offset - backlog.off
    let j := (backlog.idx + (backlog.size - backlog.histlen)).tmod backlog.size
    let j := (j + skip).tmod backlog.size
    let len := backlog.histlen - skip
    -- limit bytes to copy
    let len := if len < limit then len else limit
    consumeFrom backlog.size (len.toNat + 2) j len

/-- The bytes the callback is given. -/
def pieceBytes (bytes : Bytes) (piece : Int × Int) : Bytes :=
  (bytes.drop piece.1.toNat).take piece.2.toNat

/-- The ring holds the last bytes of the stream: `hist` are those from offset `off` on. -/
structure ReplBuffer.Holds (backlog : ReplBuffer) (hist : Bytes) : Prop where
  size : 0 < backlog.size ∧ (backlog.bytes.length : Int) = backlog.size
  idx : 0 ≤ backlog.idx ∧ backlog.idx < backlog.size
  histlen : (hist.length : Int) = backlog.histlen ∧ backlog.histlen ≤ backlog.size
  stored : ∀ k < hist.length, backlog.bytes[((backlog.idx + backlog.size - backlog.histlen + k) %
    backlog.size).toNat]? = hist[k]?

section Slice
variable {backlog : ReplBuffer} {hist ring : Bytes} {server : Server}

/-- The pieces of a slice of `n` bytes from position `j` on: they are not empty, stay inside the
ring, and put together are the stretch of `n` bytes. -/
structure PiecesOf (ring : Bytes) (j n : Nat) (pieces : List (Int × Int)) : Prop where
  inside : ∀ p ∈ pieces, 0 < p.2 ∧ 0 ≤ p.1 ∧ p.1 + p.2 ≤ ring.length
  stretch : Stretch ring j (pieces.flatMap (pieceBytes ring))
  length : (pieces.flatMap (pieceBytes ring)).length = n
  total : (pieces.map Prod.snd).sum = (n : Int)

/-- The loop, by induction on what is left to send. -/
theorem consumeFrom_spec {fuel j n : Nat} (hj : j < ring.length) (hfuel : n < fuel) :
    ∃ pieces, consumeFrom ring.length fuel j n = some (pieces, (n : Int)) ∧
      PiecesOf ring j n pieces := by
  induction fuel generalizing j n with
  | zero => omega
  | succ fuel ih =>
    by_cases hn : n = 0
    · subst hn
      exact ⟨[], rfl, ⟨by simp, stretch_nil ring j, rfl, rfl⟩⟩
    · -- one piece, up to the end of the ring or of the slice
      obtain ⟨k, hk, hkn, hkj⟩ : ∃ k : Nat, (if (ring.length : Int) - j < n then
          (ring.length : Int) - j else n) = k ∧ (0 < k ∧ k ≤ n) ∧
          (j + k ≤ ring.length ∧ (k < n → j + k = ring.length)) := by
        by_cases hlt : (ring.length : Int) - j < n
        · exact ⟨ring.length - j, by rw [if_pos hlt]; omega, by omega, by omega⟩
        · exact ⟨n, by rw [if_neg hlt], by omega, by omega⟩
      obtain ⟨pieces, hrun, hpieces⟩ := ih (j := 0) (n := n - k) (by omega) (by omega)
      have hlength : (pieceBytes ring ((j : Int), (k : Int))).length = k := by
        rw [pieceBytes, List.length_take, List.length_drop]
        omega
      have hpiece : Stretch ring j (pieceBytes ring ((j : Int), (k : Int))) := stretch_slice hkj.1
      refine ⟨((j : Int), (k : Int)) :: pieces, ?_, ?_, ?_, ?_, ?_⟩
      · have hrest : consumeFrom ring.length fuel 0 ((n : Int) - k) =
            some (pieces, ((n - k : Nat) : Int)) := by
          rw [← Int.ofNat_sub hkn.2]
          exact hrun
        have hadded : (k : Int) + ((n - k : Nat) : Int) = n := by omega
        rw [consumeFrom, if_neg (by omega)]
        simp only [hk, hrest, hadded, Option.bind_eq_bind, Option.bind_some]
      · intro p hp
        rcases List.mem_cons.mp hp with rfl | hp
        · exact ⟨by omega, by omega, by omega⟩
        · exact hpieces.inside p hp
      · rw [List.flatMap_cons]
        refine hpiece.append ?_
        rw [hlength]
        by_cases hend : k < n
        · refine hpieces.stretch.congr ?_
          rw [hkj.2 hend, Nat.mod_self, Nat.zero_mod]
        · have hnil : pieces.flatMap (pieceBytes ring) = [] := by
            apply List.eq_nil_of_length_eq_zero
            rw [hpieces.length]
            omega
          rw [hnil]
          exact stretch_nil ring _
      · rw [List.flatMap_cons, List.length_append, hlength, hpieces.length]
        omega
      · rw [List.map_cons, List.sum_cons, hpieces.total]
        omega

/-- The stream bytes are a stretch of the ring. -/
theorem ReplBuffer.Holds.stretch (h : backlog.Holds hist) :
    Stretch backlog.bytes (backlog.idx.toNat + (backlog.bytes.length - hist.length)) hist := by
  intro k hk
  rw [← h.stored k hk]
  obtain ⟨hpos, hsize⟩ := h.size
  obtain ⟨hlen, hle⟩ := h.histlen
  have hidx := h.idx.1
  have hsum : backlog.idx + backlog.size - backlog.histlen + k =
      ((backlog.idx.toNat + (backlog.bytes.length - hist.length) + k : Nat) : Int) := by omega
  rw [hsum, ← hsize, ← Int.natCast_mod, Int.toNat_natCast]

/-- **The slice of the stream.**  `hist` are the bytes the backlog holds; those from `offset`
on, up to the limit, are handed over in pieces of the ring.  With the limit of an offset in
the stage before the current one they are the bytes before `repl_mode->from`. -/
theorem consumeReplicationBacklogLimited_slice (h : backlog.Holds hist) {offset limit : Int}
    (hoff : backlog.off ≤ offset ∧ offset ≤ backlog.off + backlog.histlen) (hlimit : 0 ≤ limit) :
    ∃ pieces, consumeReplicationBacklogLimited backlog offset limit =
        some (pieces, (pieces.map Prod.snd).sum) ∧
      pieces.flatMap (pieceBytes backlog.bytes) =
        (hist.drop (offset - backlog.off).toNat).take
          (min limit (backlog.off + backlog.histlen - offset)).toNat ∧
      (∀ p ∈ pieces, 0 < p.2 ∧ 0 ≤ p.1 ∧ p.1 + p.2 ≤ backlog.size) ∧
      (pieces.map Prod.snd).sum = min limit (backlog.off + backlog.histlen - offset) ∧
      (∀ server requestMode, locateServerReplMode server requestMode offset = some (.prev limit) →
        server.replMode.from ≤ backlog.off + backlog.histlen →
        offset < server.replMode.from ∧
        pieces.flatMap (pieceBytes backlog.bytes) =
          (hist.drop (offset - backlog.off).toNat).take (server.replMode.from - offset).toNat) := by
  obtain ⟨hpos, hsize⟩ := h.size
  obtain ⟨hlen, hle⟩ := h.histlen
  have hidx := h.idx
  have hguard : limit ≥ 0 ∧ offset ≥ backlog.off := ⟨hlimit, hoff.1⟩
  -- the limit of a located offset is a case of the slice
  suffices hslice : ∃ pieces, consumeReplicationBacklogLimited backlog offset limit =
        some (pieces, (pieces.map Prod.snd).sum) ∧
      pieces.flatMap (pieceBytes backlog.bytes) =
        (hist.drop (offset - backlog.off).toNat).take
          (min limit (backlog.off + backlog.histlen - offset)).toNat ∧
      (∀ p ∈ pieces, 0 < p.2 ∧ 0 ≤ p.1 ∧ p.1 + p.2 ≤ backlog.size) ∧
      (pieces.map Prod.snd).sum = min limit (backlog.off + backlog.histlen - offset) by
    obtain ⟨pieces, hrun, hbytes, hinside, htotal⟩ := hslice
    refine ⟨pieces, hrun, hbytes, hinside, htotal, fun server requestMode hlocate hfrom => ?_⟩
    obtain ⟨-, -, hbefore, rfl⟩ := (locateServerReplMode_some hlocate).prev limit rfl
    refine ⟨hbefore, ?_⟩
    rw [hbytes, min_eq_left (by omega)]
  obtain ⟨k, hk⟩ := Int.eq_ofNat_of_zero_le (show 0 ≤ offset - backlog.off by omega)
  obtain ⟨n, hn⟩ := Int.eq_ofNat_of_zero_le
    (show 0 ≤ min limit (backlog.off + backlog.histlen - offset) by omega)
  rw [hk, hn, Int.toNat_natCast, Int.toNat_natCast]
  by_cases hzero : backlog.histlen = 0
  · have hnil : hist = [] := List.eq_nil_of_length_eq_zero (by omega)
    have hn₀ : n = 0 := by omega
    refine ⟨[], ?_, by simp [hnil], by simp, by simp [hn₀]⟩
    simp only [consumeReplicationBacklogLimited, guard, if_pos hguard, hzero, if_true]
    rfl
  · -- the position of the first byte in the ring
    obtain ⟨j, hj⟩ : ∃ j, j = ((backlog.idx.toNat + (backlog.bytes.length - hist.length)) %
      backlog.bytes.length + k) % backlog.bytes.length := ⟨_, rfl⟩
    have hlt : j < backlog.bytes.length := hj ▸ Nat.mod_lt _ (by omega)
    have hstart : ((backlog.idx + (backlog.size - backlog.histlen)).tmod backlog.size + k).tmod
        backlog.size = (j : Int) := by
      have hsum : backlog.idx + (backlog.size - backlog.histlen) =
          ((backlog.idx.toNat + (backlog.bytes.length - hist.length) : Nat) : Int) := by omega
      rw [hsum, ← hsize, ← Int.ofNat_tmod, ← Int.natCast_add, ← Int.ofNat_tmod, hj]
    have hsent : (if backlog.histlen - k < limit then backlog.histlen - k else limit) = n := by
      rw [← hn]
      split <;> omega
    obtain ⟨pieces, hrun, hpieces⟩ := consumeFrom_spec hlt (show n < n + 2 by omega)
    refine ⟨pieces, ?_, ?_, ?_, hpieces.total⟩
    · rw [hpieces.total, ← hrun, hsize]
      simp only [consumeReplicationBacklogLimited, guard, if_pos hguard, if_neg hzero, hk, hstart,
        hsent, Int.toNat_natCast]
      rfl
    · have hslice := (h.stretch.drop k).take n
      refine hpieces.stretch.unique (hslice.congr ?_) ?_
      · rw [hj, Nat.mod_mod, Nat.mod_add_mod]
      · rw [hpieces.length, List.length_take, List.length_drop]
        omega
    · rw [← hsize]
      exact hpieces.inside

/-- A full ring of four bytes, the oldest in the middle: the slice passes its end. -/
theorem consumeReplicationBacklogLimited_wraps :
    ∃ pieces, consumeReplicationBacklogLimited ⟨⟨true, 4, 4, 10⟩, 2, [3, 4, 1, 2]⟩ 11 2 =
        some (pieces, (pieces.map Prod.snd).sum) ∧
      pieces.flatMap (pieceBytes [3, 4, 1, 2]) = [2, 3] := by
  have hstored : ∀ k < 4, ([3, 4, 1, 2] : Bytes)[((2 + 4 - 4 + (k : Nat)) % 4 : Int).toNat]? =
      ([1, 2, 3, 4] : Bytes)[k]? := by decide
  have hholds : ReplBuffer.Holds ⟨⟨true, 4, 4, 10⟩, 2, [3, 4, 1, 2]⟩ [1, 2, 3, 4] :=
    ⟨⟨by decide, rfl⟩, ⟨by decide, by decide⟩, ⟨rfl, by decide⟩, hstored⟩
  obtain ⟨pieces, hrun, hbytes, -⟩ := consumeReplicationBacklogLimited_slice hholds
    (show (10 : Int) ≤ 11 ∧ (11 : Int) ≤ 10 + 4 by decide) (show (0 : Int) ≤ 2 by decide)
  exact ⟨pieces, hrun, hbytes⟩

end Slice

end XredisGtid
