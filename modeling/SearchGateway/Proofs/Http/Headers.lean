import SearchGateway.Http.Origins
import SearchGateway.Proofs.Text.Utf8

/-!
# Values of header fields

Setting a header gives its name one value and leaves the values of every other name as they are. A
value is read as a text exactly if it has no other bytes than those of visible characters, spaces
and tabs (`visibleText?_eq_some_iff`).
-/

namespace SearchGateway.Http

namespace Headers

variable {headers fields : Headers} {name other : String} {value : Bytes}

def values (headers : Headers) (name : String) : List Bytes :=
  (headers.filter (·.1 == name)).map (·.2)

@[simp] theorem values_nil : values [] name = [] := rfl

@[simp] theorem values_cons {field : String × Bytes} :
    values (field :: fields) name =
      if field.1 = name then field.2 :: values fields name else values fields name := by
  simp only [values, List.filter_cons, beq_iff_eq]
  split <;> rfl

@[simp] theorem values_append :
    values (headers ++ fields) name = values headers name ++ values fields name := by
  simp [values]

theorem values_filter_ne (h : name ≠ other) :
    values (headers.filter (·.1 != name)) other = values headers other := by
  simp only [values, List.filter_filter]
  congr 2
  funext field
  by_cases hfield : field.1 = other
  · simp [hfield, Ne.symm h]
  · simp [hfield]

theorem values_filter_self : values (headers.filter (·.1 != name)) name = [] := by
  simp [values, List.filter_filter]

theorem values_set_self : (headers.set name value).values name = [value] := by
  simp [Headers.set, values_filter_self]

theorem values_eq_nil (h : ∀ field ∈ headers, field.1 ≠ name) : values headers name = [] := by
  have hnone : headers.filter (·.1 == name) = [] :=
    List.filter_eq_nil_iff.2 fun field hfield => by simpa using h field hfield
  rw [values, hnone, List.map_nil]

theorem first?_eq_head?_values : headers.first? name = (headers.values name).head? := by
  simp [first?, values]

theorem filter_set : (headers.set name value).filter (·.1 != name) =
    headers.filter (·.1 != name) := by
  simp [Headers.set]

theorem values_set_of_ne (h : name ≠ other) :
    (headers.set name value).values other = headers.values other := by
  simp [Headers.set, values_filter_ne h, h]

end Headers

theorem Response.values_withLength {response : Response} {name : String}
    (h : name ≠ "content-length") :
    response.withLength.headers.values name = response.headers.values name := by
  unfold Response.withLength
  split
  · rfl
  · exact Headers.values_set_of_ne (Ne.symm h)

variable {response : Response} {request : Request} {name : String}

theorem Response.values_withLength_self (h : response.headers.values "content-length" = []) :
    response.withLength.headers.values "content-length" =
      [Text.Utf8.encode (toString response.body.length)] := by
  rw [withLength, Headers.first?_eq_head?_values, h]
  exact Headers.values_set_self

theorem Response.filter_withLength :
    response.withLength.headers.filter (·.1 != "content-length") =
      response.headers.filter (·.1 != "content-length") := by
  unfold withLength
  split
  · rfl
  · exact Headers.filter_set

@[simp] theorem Response.body_withLength : response.withLength.body = response.body := by
  unfold withLength
  split <;> rfl

@[simp] theorem Response.status_withLength : response.withLength.status = response.status := by
  unfold withLength
  split <;> rfl

/-! ## Values that are text -/

section

variable {value : Bytes} {text : String}

/-- A header value is this text, which has no other characters than the visible ones of ASCII,
spaces and tabs. -/
structure ReadsAs (value : Bytes) (text : String) : Prop where
  visible : ∀ b ∈ value, b = 0x09 ∨ 0x20 ≤ b ∧ b ≤ 0x7E
  bytes : value = Text.Utf8.encode text

theorem isVisible_iff {b : UInt8} : isVisible b = true ↔ b = 0x09 ∨ 0x20 ≤ b ∧ b ≤ 0x7E := by
  simp [isVisible, or_comm]

theorem toNat_lt_of_isVisible {b : UInt8} (h : isVisible b = true) : b.toNat < 0x80 := by
  rcases isVisible_iff.1 h with rfl | ⟨-, hb⟩
  · decide
  · rw [UInt8.le_iff_toNat_le] at hb
    exact Nat.lt_of_le_of_lt hb (by decide)

theorem encode_visible (h : ∀ b ∈ value, isVisible b = true) :
    Text.Utf8.encode (String.ofList (value.map fun b => Char.ofNat b.toNat)) = value := by
  have hone : ∀ b ∈ value, String.utf8EncodeChar (Char.ofNat b.toNat) = [b] := by
    intro b hb
    have hlt := toNat_lt_of_isVisible (h b hb)
    have hchar : (Char.ofNat b.toNat).toNat = b.toNat := Text.Utf8.toNat_ofNat (by omega)
    rw [Text.Utf8.utf8EncodeChar_ascii (by omega), hchar, UInt8.ofNat_toNat]
  rw [Text.Utf8.encode, String.toList_ofList, List.flatMap_map, List.flatMap_congr hone,
    List.flatMap_singleton']

theorem visibleText?_eq_some_iff : visibleText? value = some text ↔ ReadsAs value text := by
  unfold visibleText?
  constructor
  · intro h
    split at h
    · rename_i hall
      cases h
      rw [List.all_eq_true] at hall
      exact ⟨fun b hb => isVisible_iff.1 (hall b hb), (encode_visible hall).symm⟩
    · cases h
  · rintro ⟨hvisible, hbytes⟩
    have hall : ∀ b ∈ value, isVisible b = true := fun b hb => isVisible_iff.2 (hvisible b hb)
    rw [if_pos (List.all_eq_true.2 hall), Option.some.injEq]
    exact Text.Utf8.encode_injective ((encode_visible hall).trans hbytes)

/-- A text of visible characters and spaces is read from its own bytes. -/
theorem readsAs_encode (h : ∀ c ∈ text.toList, 0x20 ≤ c.toNat ∧ c.toNat ≤ 0x7E) :
    ReadsAs (Text.Utf8.encode text) text := by
  refine ⟨fun b hb => .inr ?_, rfl⟩
  obtain ⟨c, hc, hb⟩ := List.mem_flatMap.1 hb
  obtain ⟨hlow, hhigh⟩ := h c hc
  rw [Text.Utf8.utf8EncodeChar_ascii (by omega), List.mem_singleton] at hb
  rw [hb, UInt8.le_iff_toNat_le, UInt8.le_iff_toNat_le, UInt8.toNat_ofNat']
  simp only [UInt8.reduceToNat]
  omega

end

/-! ## Headers about other origins -/

/-- The names of the headers that say who may read a response. -/
def stampNames : List String :=
  ["vary", "access-control-allow-credentials", "access-control-allow-origin",
    "access-control-expose-headers"]

namespace OriginPolicy

variable {origins : OriginPolicy}

theorem mem_stampNames {field : String × Bytes}
    (h : field ∈ origins.sharedHeaders request ++ origins.exposingHeaders) :
    field.1 ∈ stampNames := by
  simp only [sharedHeaders, exposingHeaders, originHeader, texts, List.mem_append] at h
  rcases h with ((h | h) | h) | h
  · simp_all [stampNames]
  · split at h <;> simp_all [stampNames]
  · split at h
    · split at h <;> simp_all [stampNames]
    · cases h
  · split at h <;> simp_all [stampNames]

/-- The headers about other origins are no other headers. -/
theorem values_stamp (h : name ∉ stampNames) :
    (origins.stamp request response).headers.values name = response.headers.values name := by
  have hnone :
      Headers.values (origins.sharedHeaders request ++ origins.exposingHeaders) name = [] :=
    Headers.values_eq_nil fun field hfield hname => h (hname ▸ mem_stampNames hfield)
  rw [stamp, List.append_assoc, Headers.values_append, hnone, List.append_nil]

end OriginPolicy

end SearchGateway.Http
