import SearchGateway.CommandLine
import SearchGateway.Proofs.Text.Split

/-!
# The address to listen on

The command line replaces the host or the port of the configured address. An address is cut at its
last colon, which is the right place unless it is a host in brackets without a port: the colon is
then one of the host (`bindAddress_replaces_iff`). Whatever is configured, the port has no colon, so
the parts can be replaced one after the other (`bindAddress_bindAddress`).
-/

namespace SearchGateway.CommandLine

/-- A host as an address has it: a name or numbers with dots between them, which have no colon, or
numbers with colons between them in brackets. -/
inductive IsHost : String → Prop where
  | plain {host} : ':' ∉ host.toList → IsHost host
  | bracketed {inner} : ':' ∈ inner.toList → IsHost ("[" ++ inner ++ "]")

/-- The address of a host, with a port or without one. -/
def addressOf (host : String) (port : Option String) : String :=
  match port with
  | some port => host ++ ":" ++ port
  | none => host

/-- The address of a host in which the command line has replaced the host, the port, or both. -/
def replacedAddress (host : String) (port hostFlag : Option String) (portFlag : Option Nat) :
    String :=
  hostFlag.getD host ++ ":" ++ (portFlag.map toString).getD (port.getD defaultPort)

variable {address host inner text : String} {port hostFlag : Option String} {portFlag : Option Nat}

/-! ## The last colon -/

theorem hostAndPort_append (h : ':' ∉ text.toList) :
    hostAndPort (host ++ ":" ++ text) = (host, text) := by
  have hcut : Text.cutLast? (· == ':') (host ++ ":" ++ text).toList =
      some (host.toList, text.toList) := by
    refine Text.cutLast?_eq_some_iff.2 ⟨':', rfl, by simp, fun c hc => ?_⟩
    exact beq_eq_false_iff_ne.2 fun hcolon => h (hcolon ▸ hc)
  rw [hostAndPort, hcut]
  simp

theorem hostAndPort_of_no_colon (h : ':' ∉ address.toList) :
    hostAndPort address = (address, defaultPort) := by
  have hcut : Text.cutLast? (· == ':') address.toList = none := by
    refine Option.eq_none_iff_forall_ne_some.2 fun ⟨before, after⟩ hsome => h ?_
    obtain ⟨colon, hcolon, haddress, -⟩ := Text.cutLast?_eq_some_iff.1 hsome
    rw [haddress, ← beq_iff_eq.1 hcolon]
    exact List.mem_append_right _ List.mem_cons_self
  rw [hostAndPort, hcut]

theorem exists_last_colon (h : ':' ∈ text.toList) :
    ∃ before after, text = before ++ ":" ++ after ∧ ':' ∉ after.toList := by
  obtain ⟨after, before, hreverse, hplain⟩ :=
    List.eq_append_cons_of_mem (List.mem_reverse.2 h)
  refine ⟨String.ofList before.reverse, String.ofList after.reverse, ?_, by simpa using hplain⟩
  rw [← String.toList_inj, ← List.reverse_inj, hreverse]
  simp

theorem colon_not_mem_port (address : String) : ':' ∉ (hostAndPort address).2.toList := by
  by_cases h : ':' ∈ address.toList
  · obtain ⟨before, after, rfl, hafter⟩ := exists_last_colon h
    rwa [hostAndPort_append hafter]
  · have hdefault : ':' ∉ defaultPort.toList := by decide
    rwa [hostAndPort_of_no_colon h]

theorem colon_not_mem_getD (h : ':' ∉ text.toList) (portFlag : Option Nat) :
    ':' ∉ ((portFlag.map toString).getD text).toList := by
  cases portFlag with
  | none => exact h
  | some n =>
      intro hmem
      have hdigits : ':' ∈ Nat.toDigits 10 n := by simpa using hmem
      exact absurd (Nat.isDigit_of_mem_toDigits (by decide) (by decide) hdigits) (by decide)

/-! ## Replacing parts -/

theorem bindAddress_bindAddress (configured : String) (hostFlag : Option String)
    (portFlag : Option Nat) :
    bindAddress (bindAddress configured hostFlag none) none portFlag =
      bindAddress configured hostFlag portFlag := by
  have hparts : hostAndPort (bindAddress configured hostFlag none) =
      (hostFlag.getD (hostAndPort configured).1, (hostAndPort configured).2) :=
    hostAndPort_append (colon_not_mem_port configured)
  simp only [bindAddress] at hparts ⊢
  simp only [hparts, Option.getD_none]

theorem bindAddress_of_port (h : ':' ∉ text.toList) :
    bindAddress (addressOf host (some text)) hostFlag portFlag =
      replacedAddress host (some text) hostFlag portFlag := by
  simp only [bindAddress, addressOf, hostAndPort_append h, replacedAddress, Option.getD_some]

theorem bindAddress_of_no_colon (h : ':' ∉ host.toList) :
    bindAddress (addressOf host none) hostFlag portFlag =
      replacedAddress host none hostFlag portFlag := by
  simp only [bindAddress, addressOf, hostAndPort_of_no_colon h, replacedAddress, Option.getD_none]

/-- A host in brackets without a port is cut within the brackets. Nothing is left of that only if
both parts are replaced. -/
theorem bindAddress_of_bracketed (h : ':' ∈ inner.toList) :
    bindAddress (addressOf ("[" ++ inner ++ "]") none) hostFlag portFlag =
        replacedAddress ("[" ++ inner ++ "]") none hostFlag portFlag ↔
      hostFlag.isSome ∧ portFlag.isSome := by
  obtain ⟨before, after, rfl, hafter⟩ := exists_last_colon h
  have hparts : hostAndPort ("[" ++ (before ++ ":" ++ after) ++ "]") =
      ("[" ++ before, after ++ "]") := by
    have hplain : ':' ∉ (after ++ "]").toList := by simpa using hafter
    rw [← hostAndPort_append hplain]
    simp only [String.append_assoc]
  simp only [bindAddress, addressOf, hparts, replacedAddress, Option.getD_none]
  constructor
  · intro hsame
    have hlast : ':' ∉ (after ++ "]").toList := by simpa using hafter
    have hdefault : ':' ∉ defaultPort.toList := by decide
    -- Two addresses that are the same are cut alike.
    have hcut := congrArg hostAndPort hsame
    rw [hostAndPort_append (colon_not_mem_getD hlast portFlag),
      hostAndPort_append (colon_not_mem_getD hdefault portFlag), Prod.mk.injEq] at hcut
    obtain ⟨hhosts, hports⟩ := hcut
    constructor
    · cases hostFlag with
      | some _ => rfl
      | none =>
          have hlength := congrArg (·.toList.length) hhosts
          simp at hlength
    · cases portFlag with
      | some _ => rfl
      | none =>
          have hends := congrArg (·.toList.getLast?) hports
          simp [defaultPort] at hends
  · rintro ⟨hhost, hport⟩
    obtain ⟨hostText, rfl⟩ := Option.isSome_iff_exists.1 hhost
    obtain ⟨portNumber, rfl⟩ := Option.isSome_iff_exists.1 hport
    rfl

/-- The parts of an address that the command line does not replace are the configured ones, with
the default for a port that is missing, unless the address is a host in brackets without a port and
not both parts are replaced. The parts may also be replaced one after the other. -/
theorem bindAddress_replaces_iff (hhost : IsHost host) (hport : ∀ text ∈ port, ':' ∉ text.toList)
    (hostFlag : Option String) (portFlag : Option Nat) :
    (bindAddress (addressOf host port) hostFlag portFlag =
        replacedAddress host port hostFlag portFlag ↔
      port.isSome ∨ ':' ∉ host.toList ∨ hostFlag.isSome ∧ portFlag.isSome) ∧
    bindAddress (bindAddress (addressOf host port) hostFlag none) none portFlag =
      bindAddress (addressOf host port) hostFlag portFlag := by
  refine ⟨?_, bindAddress_bindAddress _ hostFlag portFlag⟩
  cases port with
  | some text => exact iff_of_true (bindAddress_of_port (hport text rfl)) (.inl rfl)
  | none =>
      cases hhost with
      | plain h => exact iff_of_true (bindAddress_of_no_colon h) (.inr (.inl h))
      | bracketed h =>
          rw [bindAddress_of_bracketed h]
          simp [h]

/-- The port behind a host in brackets is replaced. -/
theorem bindAddress_replaces_loopback :
    IsHost "[::1]" ∧ (∀ text ∈ some "9000", ':' ∉ text.toList) ∧
      bindAddress "[::1]:9000" none (some 80) = "[::1]:80" := by
  have hhost : IsHost "[::1]" := @IsHost.bracketed "::1" (by decide)
  have hport : ∀ text ∈ some "9000", ':' ∉ text.toList := by
    rintro _ ⟨⟩
    decide
  exact ⟨hhost, hport, (bindAddress_replaces_iff hhost hport none (some 80)).1.2 (.inl rfl)⟩

/-- A host in brackets without a port does not get the default one. -/
theorem bindAddress_without_port :
    ¬ ∀ host port, IsHost host → (∀ text ∈ port, ':' ∉ text.toList) →
      ∀ hostFlag portFlag, bindAddress (addressOf host port) hostFlag portFlag =
        replacedAddress host port hostFlag portFlag := by
  intro hreplaces
  have hhost : IsHost "[::1]" := @IsHost.bracketed "::1" (by decide)
  exact absurd (hreplaces "[::1]" none hhost nofun none none) (by decide +kernel)

end SearchGateway.CommandLine
