import MediaDepot.Digest.Md5

/-!
# MediaDepot.Proofs.Digest

**A digest does not depend on the pieces in which its message came.** Mixing a first part of a
message into the words and then the rest, with what was left over before it, is mixing the whole
(`absorb_append`); contexts inherit this, and a context that took in a message ends with the digest
of that message (`finish_update`).
-/

namespace MediaDepot.Digest.Md5

/-- A full block is mixed first. -/
theorem absorb_of_long {w : Words} {bytes rest : Bytes} {b : UInt8}
    (h : bytes.drop 63 = b :: rest) :
    absorb w bytes = absorb (compress w (bytes.take 64)) rest := by
  rw [absorb.eq_def]
  split
  · next short => exact absurd (short.symm.trans h) (by simp)
  · next long =>
      obtain ⟨-, rfl⟩ := List.cons.inj (long.symm.trans h)
      rfl

/-- Less than a block is left over. -/
theorem absorb_of_short {w : Words} {bytes : Bytes} (h : bytes.drop 63 = []) :
    absorb w bytes = (w, bytes) := by
  rw [absorb.eq_def]
  split
  · rfl
  · next long => exact absurd (h.symm.trans long) (by simp)

/-- **Taking in a message in two parts** is taking it in at once. -/
theorem absorb_append (w : Words) (first second : Bytes) :
    absorb w (first ++ second) =
      absorb (absorb w first).1 ((absorb w first).2 ++ second) := by
  fun_induction absorb w first with
  | case1 w bytes short => rfl
  | case2 w bytes b rest long ih =>
      -- the first block lies in the first part
      have hlength : 64 ≤ bytes.length := by
        have := congrArg List.length long
        simp only [List.length_drop, List.length_cons] at this
        omega
      have hdrop : (bytes ++ second).drop 63 = b :: (rest ++ second) := by
        rw [List.drop_append_of_le_length (by omega), long, List.cons_append]
      have htake : (bytes ++ second).take 64 = bytes.take 64 :=
        List.take_append_of_le_length hlength
      rw [absorb_of_long hdrop, htake, ih]

namespace Context

@[simp] theorem update_update (ctx : Context) (first second : Bytes) :
    (ctx.update first).update second = ctx.update (first ++ second) := by
  simp only [update, ← List.append_assoc, absorb_append _ (ctx.rest ++ first) second,
    List.length_append, Nat.add_assoc]

@[simp] theorem update_nil : ({} : Context).update [] = {} := by
  rw [update, absorb_of_short rfl]
  rfl

/-- A context that took in a message ends with its digest. -/
theorem finish_update (message : Bytes) :
    (({} : Context).update message).finish = digest message := by
  have hpadded := absorb_append initial message (padding message.length)
  simp only [finish, update, digest, List.nil_append, Nat.zero_add, hpadded]

theorem hexDigest_update (message : Bytes) :
    (({} : Context).update message).hexDigest = Md5.hexDigest message := by
  rw [hexDigest, finish_update, Md5.hexDigest]

end Context

/-! ### The text of a digest -/

theorem length_littleEndian (n value : Nat) : (littleEndian n value).length = n := by
  induction n generalizing value with
  | zero => rfl
  | succ n ih => simp [littleEndian, ih]

theorem length_digest (message : Bytes) : (digest message).length = 16 := by
  simp [digest, Words.toBytes, length_littleEndian]

theorem length_hexDigest (message : Bytes) : (hexDigest message).toList.length = 32 := by
  simp [hexDigest, Bytes.toHex, Bytes.hexPair, List.length_flatMap, List.map_const', length_digest]

/-- The text of a digest is never empty. -/
theorem hexDigest_ne_empty (message : Bytes) : hexDigest message ≠ "" := by
  intro h
  have := length_hexDigest message
  simp [h] at this

end MediaDepot.Digest.Md5
