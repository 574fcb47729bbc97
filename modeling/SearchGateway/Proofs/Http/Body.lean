import SearchGateway.Http.Body
import SearchGateway.Proofs.Outcome

/-!
# Bodies that have been read

What reading comes to is decided by the bytes of a body and by the end of its stream, not by the
chunks that they arrive in (`read_eq`). So it yields all the bytes of a body or none
(`read_eq_ok_iff`), and what has been read within the limit can be read again.
-/

namespace SearchGateway.Http.Body

variable {failure : Option String} {limit : Nat} {chunks : List Bytes} {body body' : Body}
  {bytes : Bytes} {e : BodyError}

/-- The bytes that are sent as a body. -/
def sent (body : Body) : Bytes := body.chunks.flatten

/-- The chunk that does not fit is the first one with which the bytes exceed the limit. -/
theorem gather_eq : gather failure limit chunks =
    if limit < chunks.flatten.length then .error .tooLong
    else match failure with
      | some reason => .error (.broken reason)
      | none => .ok chunks.flatten := by
  induction chunks generalizing limit with
  | nil =>
      rw [List.flatten_nil, List.length_nil, if_neg (Nat.not_lt_zero limit)]
      rfl
  | cons chunk chunks ih =>
      -- what is left of the limit shrinks by as much as what is left of the bytes
      rw [gather, ih, List.flatten_cons, List.length_append]
      split
      · rename_i hlong
        rw [if_pos (by omega)]
      · rename_i hfits
        have hrest : limit - chunk.length < chunks.flatten.length ↔
            limit < chunk.length + chunks.flatten.length := by
          omega
        simp only [hrest]
        split
        · rfl
        · cases failure <;> rfl

theorem read_eq : body.read limit =
    if limit < body.sent.length then .error .tooLong
    else match body.failure with
      | some reason => .error (.broken reason)
      | none => .ok body.sent :=
  gather_eq

theorem read_congr (hsent : body'.sent = body.sent) (hfailure : body'.failure = body.failure) :
    body'.read limit = body.read limit := by
  rw [read_eq, read_eq, hsent, hfailure]

theorem read_eq_ok_iff :
    body.read limit = .ok bytes ↔
      body.failure = none ∧ bytes = body.sent ∧ bytes.length ≤ limit := by
  rw [read_eq]
  split
  · rename_i hlong
    simp only [reduceCtorEq, false_iff]
    rintro ⟨-, rfl, hlength⟩
    omega
  · rename_i hfits
    cases body.failure with
    | some reason => simp
    | none =>
        simp only [Except.ok.injEq, true_and]
        constructor
        · rintro rfl
          exact ⟨rfl, Nat.not_lt.1 hfits⟩
        · rintro ⟨rfl, -⟩
          rfl

theorem read_eq_error_iff :
    body.read limit = .error e ↔
      limit < body.sent.length ∧ e = .tooLong ∨
        body.sent.length ≤ limit ∧ ∃ reason, body.failure = some reason ∧ e = .broken reason := by
  rw [read_eq]
  split
  · rename_i hlong
    simp [hlong, Nat.not_le.2 hlong, eq_comm]
  · rename_i hfits
    cases body.failure <;> simp [hfits, Nat.not_lt.1 hfits, eq_comm]

/-- A body that has been read is no longer than the limit, so it can be read again at once. -/
theorem read_ofBytes (h : body.read limit = .ok bytes) :
    (ofBytes bytes).read limit = .ok bytes :=
  read_eq_ok_iff.2 ⟨rfl, by simp [sent, ofBytes], (read_eq_ok_iff.1 h).2.2⟩

end SearchGateway.Http.Body
