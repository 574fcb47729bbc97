import SearchGateway.Proofs.Http.Headers
import SearchGateway.Proofs.Text.Base64
import SearchGateway.Proofs.Text.Blank
import SearchGateway.Proofs.Text.Split
import SearchGateway.Security.Credential

/-!
# Presented credentials

What a text presents is said without regard to how it is read (`Presents`), and the first
`Authorization` header is read accordingly (`ofHeaders?_eq_some_iff`). A name and a password are
therefore found again in the header that a client writes for them, whatever the password is, as
long as the name is not empty and has no colon (`Credential.presented_iff`).
-/

namespace SearchGateway.Security

open Http (Headers ReadsAs)

/-- A text presents a credential in one of the two schemes. A name ends at the first colon, so it
has none. -/
inductive Presents (text : String) : Credential → Prop where
  | apiKey {rest key} : Text.trimmed text = "Bearer " ++ rest → Text.trimmed rest = key →
      key ≠ "" → Presents text (.apiKey key)
  | basic {rest user password} : Text.trimmed text = "Basic " ++ rest →
      Text.trimmed rest = Text.Base64.encode (Text.Utf8.encode (user ++ ":" ++ password)) →
      user ≠ "" → ':' ∉ user.toList → Presents text (.basic user password)

namespace Credential

variable {credential : Credential} {headers : Headers} {text user password : String}

/-! ## The two schemes -/

theorem schemeRest?_eq_some_iff {scheme : String} {rest : List Char} :
    schemeRest? scheme (Text.trim text.toList) = some rest ↔
      ∃ after, Text.trimmed text = scheme ++ after ∧ Text.trimmed after = String.ofList rest := by
  simp only [schemeRest?, Option.map_eq_some_iff, Text.after?_eq_some_iff, Text.trimmed,
    String.ofList_inj]
  constructor
  · rintro ⟨after, htext, rfl⟩
    exact ⟨String.ofList after, by simp [htext], by simp⟩
  · rintro ⟨after, htext, hrest⟩
    refine ⟨after.toList, ?_, hrest⟩
    simpa using congrArg String.toList htext

theorem schemeRest?_bearer {value rest : List Char} (h : schemeRest? "Basic " value = some rest) :
    schemeRest? "Bearer " value = none := by
  obtain ⟨after, hafter, -⟩ := Option.map_eq_some_iff.1 h
  rw [Text.after?_eq_some_iff.1 hafter]
  rfl

theorem ofBearer?_eq_some_iff {key : List Char} :
    ofBearer? key = some credential ↔ key ≠ [] ∧ credential = .apiKey (String.ofList key) := by
  unfold ofBearer?
  split
  · simp [*]
  · simp [*, eq_comm]

theorem ofBasic?_eq_some_iff {encoded : List Char} :
    ofBasic? encoded = some credential ↔ ∃ user password : String,
      encoded = Text.Base64.encodeChars (Text.Utf8.encode (user ++ ":" ++ password)) ∧
        user ≠ "" ∧ ':' ∉ user.toList ∧ credential = .basic user password := by
  simp only [ofBasic?, Option.bind_eq_bind, Option.bind_eq_some_iff,
    Text.Base64.decodeChars?_eq_some_iff, Text.Utf8.decode?_eq_some_iff]
  constructor
  · rintro ⟨bytes, rfl, text, rfl, ⟨user, password⟩, hcut, h⟩
    obtain ⟨sep, hsep, htext, huser⟩ := Text.cut?_eq_some_iff.1 hcut
    obtain rfl : sep = ':' := by simpa using hsep
    dsimp only at h
    split at h
    · cases h
    · rename_i hne
      cases h
      refine ⟨String.ofList user, String.ofList password, ?_, by simpa using hne, ?_, rfl⟩
      · congr 2
        apply String.toList_injective
        simp [htext]
      · rw [String.toList_ofList]
        intro hmem
        simpa using huser _ hmem
  · rintro ⟨user, password, rfl, hne, hcolon, rfl⟩
    -- the name has no colon, so the first one comes after it, whatever the password has
    have hcut : Text.cut? (· == ':') (user ++ ":" ++ password).toList =
        some (user.toList, password.toList) := by
      refine Text.cut?_eq_some_iff.2 ⟨':', rfl, by simp, fun c hc => ?_⟩
      exact beq_eq_false_iff_ne.2 fun heq => hcolon (heq ▸ hc)
    refine ⟨_, rfl, _, rfl, _, hcut, ?_⟩
    simp [hne]

theorem ofValue?_eq_some_iff :
    ofValue? text.toList = some credential ↔ Presents text credential := by
  unfold ofValue?
  constructor
  · intro h
    dsimp only at h
    split at h
    · rename_i key hkey
      obtain ⟨rest, htext, hrest⟩ := schemeRest?_eq_some_iff.1 hkey
      obtain ⟨hne, rfl⟩ := ofBearer?_eq_some_iff.1 h
      exact .apiKey htext hrest (by simpa using hne)
    · obtain ⟨encoded, hencoded, h⟩ := Option.bind_eq_some_iff.1 h
      obtain ⟨rest, htext, hrest⟩ := schemeRest?_eq_some_iff.1 hencoded
      obtain ⟨user, password, rfl, hne, hcolon, rfl⟩ := ofBasic?_eq_some_iff.1 h
      exact .basic htext hrest hne hcolon
  · intro h
    cases h with
    | @apiKey rest key htext hkey hne =>
        have hscheme : schemeRest? "Bearer " (Text.trim text.toList) = some key.toList :=
          schemeRest?_eq_some_iff.2 ⟨rest, htext, by simpa using hkey⟩
        simp only [hscheme]
        exact ofBearer?_eq_some_iff.2 ⟨by simpa using hne, by simp⟩
    | @basic rest user password htext hrest hne hcolon =>
        have hscheme : schemeRest? "Basic " (Text.trim text.toList) =
            some (Text.Base64.encodeChars (Text.Utf8.encode (user ++ ":" ++ password))) :=
          schemeRest?_eq_some_iff.2 ⟨rest, htext, hrest⟩
        simp only [schemeRest?_bearer hscheme, hscheme, Option.bind_some]
        exact ofBasic?_eq_some_iff.2 ⟨user, password, rfl, hne, hcolon, rfl⟩

theorem ofHeaders?_eq_some_iff : ofHeaders? headers = some credential ↔
    ∃ value text, headers.first? "authorization" = some value ∧ ReadsAs value text ∧
      Presents text credential := by
  simp only [ofHeaders?, Option.bind_eq_bind, Option.bind_eq_some_iff,
    Http.visibleText?_eq_some_iff, ofValue?_eq_some_iff]
  constructor
  · rintro ⟨value, hvalue, text, htext, hpresents⟩
    exact ⟨value, text, hvalue, htext, hpresents⟩
  · rintro ⟨value, text, hvalue, htext, hpresents⟩
    exact ⟨value, hvalue, text, htext, hpresents⟩

/-! ## What a client writes -/

/-- The value in which a client presents a credential. -/
def headerValue : Credential → String
  | .apiKey key => "Bearer " ++ key
  | .basic user password =>
    "Basic " ++ Text.Base64.encode (Text.Utf8.encode (user ++ ":" ++ password))

theorem encoded_ne_nil (user password : String) :
    Text.Base64.encodeChars (Text.Utf8.encode (user ++ ":" ++ password)) ≠ [] := by
  refine Text.Base64.encodeChars_ne_nil fun hnil => ?_
  have hempty : user ++ ":" ++ password = "" := Text.Utf8.encode_injective hnil
  simpa using congrArg (':' ∈ String.toList ·) hempty

theorem presents_headerValue (hne : user ≠ "") (hcolon : ':' ∉ user.toList) :
    Presents (headerValue (.basic user password)) (.basic user password) := by
  have hplain : ∀ c ∈ Text.Base64.encodeChars (Text.Utf8.encode (user ++ ":" ++ password)),
      Text.isBlank c = false := by
    intro c hc
    obtain ⟨hlow, hhigh⟩ := Text.Base64.visible_of_mem_encodeChars hc
    exact Text.isBlank_eq_false hlow hhigh
  have htext : Text.trimmed (headerValue (.basic user password)) =
      headerValue (.basic user password) := by
    refine Text.trimmed_eq_self (fun c hc => ?_) fun c hc => ?_
    · obtain rfl : c = 'B' := by simpa [headerValue, eq_comm] using hc
      decide
    · rw [headerValue, String.toList_append, Text.Base64.toList_encode,
        List.getLast?_append_of_ne_nil _ (encoded_ne_nil user password)] at hc
      exact hplain c (List.mem_of_getLast? hc)
  refine .basic htext (Text.trimmed_eq_self (fun c hc => ?_) fun c hc => ?_) hne hcolon
  · rw [Text.Base64.toList_encode] at hc
    exact hplain c (List.mem_of_head? hc)
  · rw [Text.Base64.toList_encode] at hc
    exact hplain c (List.mem_of_getLast? hc)

theorem readsAs_headerValue :
    ReadsAs (Text.Utf8.encode (headerValue (.basic user password)))
      (headerValue (.basic user password)) := by
  refine Http.readsAs_encode fun c hc => ?_
  rw [headerValue, String.toList_append, List.mem_append] at hc
  rcases hc with hc | hc
  · have hscheme : "Basic ".toList.all fun c => 0x20 ≤ c.toNat ∧ c.toNat ≤ 0x7E := rfl
    exact of_decide_eq_true (List.all_eq_true.1 hscheme c hc)
  · rw [Text.Base64.toList_encode] at hc
    have hvisible := Text.Base64.visible_of_mem_encodeChars hc
    omega

/-- The header that a client writes for a name and a password is read as these two exactly if the
name is not empty and has no colon. -/
theorem ofHeaders?_headerValue
    (h : headers.first? "authorization" =
      some (Text.Utf8.encode (headerValue (.basic user password)))) :
    ofHeaders? headers = some (.basic user password) ↔ user ≠ "" ∧ ':' ∉ user.toList := by
  rw [ofHeaders?_eq_some_iff]
  constructor
  · rintro ⟨_, _, -, -, hpresents⟩
    cases hpresents with
    | basic _ _ hne hcolon => exact ⟨hne, hcolon⟩
  · rintro ⟨hne, hcolon⟩
    exact ⟨_, _, h, readsAs_headerValue, presents_headerValue hne hcolon⟩

/-! ## Which credentials are presented -/

/-- The credential of a request is the one that its first `Authorization` header presents, if this
is a text, and no other header matters. A name and a password are found again in the header that a
client writes for them exactly if the name is not empty and has no colon, and no header presents an
empty key. -/
theorem presented_iff (headers : Headers) :
    (∀ credential, ofHeaders? headers = some credential ↔
      ∃ value text, headers.first? "authorization" = some value ∧ ReadsAs value text ∧
        Presents text credential) ∧
    (∀ headers' : Headers, headers'.first? "authorization" = headers.first? "authorization" →
      ofHeaders? headers' = ofHeaders? headers) ∧
    (∀ user password, headers.first? "authorization" =
        some (Text.Utf8.encode (headerValue (.basic user password))) →
      (ofHeaders? headers = some (.basic user password) ↔ user ≠ "" ∧ ':' ∉ user.toList)) ∧
    ofHeaders? headers ≠ some (.apiKey "") := by
  refine ⟨fun credential => ofHeaders?_eq_some_iff, fun headers' hfirst => ?_,
    fun user password => ofHeaders?_headerValue, fun hempty => ?_⟩
  · simp only [ofHeaders?, hfirst]
  · obtain ⟨_, _, -, -, hpresents⟩ := ofHeaders?_eq_some_iff.1 hempty
    cases hpresents with
    | apiKey _ _ hne => exact hne rfl

/-- A name beyond ASCII and a password with colons are found again, and a second header does not
matter. -/
theorem presented_colons :
    headerValue (.basic "zoë" "a:b:") = "Basic em/DqzphOmI6" ∧
    (Headers.first? [("authorization", Text.Utf8.encode "Basic em/DqzphOmI6"),
        ("authorization", Text.Utf8.encode "Bearer key-1")] "authorization" =
      some (Text.Utf8.encode (headerValue (.basic "zoë" "a:b:")))) ∧
    ofHeaders? [("authorization", Text.Utf8.encode "Basic em/DqzphOmI6"),
        ("authorization", Text.Utf8.encode "Bearer key-1")] = some (.basic "zoë" "a:b:") := by
  have hvalue : headerValue (.basic "zoë" "a:b:") = "Basic em/DqzphOmI6" := by decide +kernel
  have hfirst : Headers.first? [("authorization", Text.Utf8.encode "Basic em/DqzphOmI6"),
      ("authorization", Text.Utf8.encode "Bearer key-1")] "authorization" =
        some (Text.Utf8.encode (headerValue (.basic "zoë" "a:b:"))) := by
    rw [hvalue]
    rfl
  exact ⟨hvalue, hfirst, ((presented_iff _).2.2.1 _ _ hfirst).2 (by decide)⟩

/-- A password is not found again without a name. -/
theorem nameless_not_presented :
    ¬ ∀ (headers : Headers) (user password : String), ':' ∉ user.toList →
      headers.first? "authorization" =
          some (Text.Utf8.encode (headerValue (.basic user password))) →
        ofHeaders? headers = some (.basic user password) := by
  intro hall
  have hread := hall [("authorization", Text.Utf8.encode (headerValue (.basic "" "s3cret")))]
    "" "s3cret" (by decide) rfl
  exact ((ofHeaders?_headerValue rfl).1 hread).1 rfl

end Credential

end SearchGateway.Security
