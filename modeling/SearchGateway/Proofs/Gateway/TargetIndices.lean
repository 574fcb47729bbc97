import SearchGateway.Gateway.Handler
import SearchGateway.Proofs.Registry.Target

/-!
# The indices that a request is about

A handler that gets no targets reads the target of the request itself, as the registry would
(`OperationRequest.targetIndices_canonical`).
-/

namespace SearchGateway.Gateway.OperationRequest

open Registry (IsToken SplitsCanonically tokens)

theorem targetIndices_of_unresolved {r : OperationRequest} (h : r.targets = none) :
    r.targetIndices = (r.parameters.get? "target").elim [] tokens := by
  rw [targetIndices, h]
  cases r.parameters.get? "target" <;> rfl

/-- Expressions are taken apart into the tokens that they enumerate, and a request whose target is
not resolved is about the tokens of its target. -/
theorem targetIndices_canonical :
    SplitsCanonically tokens ∧ ∀ r : OperationRequest, r.targets = none →
      r.targetIndices = (r.parameters.get? "target").elim [] tokens :=
  ⟨Registry.splitsCanonically_tokens, fun _ => targetIndices_of_unresolved⟩

/-- A request with blanks of several bytes and pieces without a token in its target. -/
def spacedRequest : OperationRequest where
  action := .indexGet
  method := .get
  parameters := .ofList [("target", "\u3000logs-1 , ,,a b\u00A0,\u2003")]
  query := .empty
  targets := none
  identity := none
  body := []

/-- The blanks around a token go, and one within it stays. -/
theorem targetIndices_canonical_blanks :
    spacedRequest.targets = none ∧ spacedRequest.targetIndices = ["logs-1", "a b"] ∧
      ∀ token ∈ spacedRequest.targetIndices, IsToken token := by
  obtain ⟨hsplits, hindices⟩ := targetIndices_canonical
  have hnames : spacedRequest.targetIndices = ["logs-1", "a b"] := by
    rw [hindices spacedRequest rfl]
    decide +kernel
  have hjoined : tokens (Text.joinWith ',' ["logs-1", "a b"]) = ["logs-1", "a b"] := by
    decide +kernel
  refine ⟨rfl, hnames, ?_⟩
  rw [hnames]
  exact (hsplits.joined_iff _).1 hjoined

end SearchGateway.Gateway.OperationRequest
