import Registrar.Proofs.Hex
import Registrar.Proofs.Value.Reading
import Registrar.Registry.Query
import Mathlib.Algebra.GroupWithZero.Nat

namespace Registrar.Registry

open Wire

/-!
# What a node's answer is taken for

The answer of a node is a text that anyone may have made up. It becomes a price or a flag only
if it is a committed response around one.

* `ReadOnlyAnswer.Carries` — the bytes in an answer that was evaluated;
* `ReadOnlyAnswer.value_eq_ok_iff` — the value in it is the one that its bytes hold;
* `readPrice_eq_ok_iff`, `readFlag_eq_ok_iff` — the values that hold a price or a flag;
* `ReadOnlyAnswer.value_eq_committed_iff` — and the bytes that hold such a value;
* `ReadOnlyAnswer.readPrice_readFlag_outcome` — the answers that become a price or a flag, and
  those that are a fault of the other side.
-/

namespace ReadOnlyAnswer

variable {answer : ReadOnlyAnswer} {value : Value}

/-! ### The value in an answer -/

/-- The answer is that the call was evaluated, with a text that writes the bytes as its value. -/
def Carries (answer : ReadOnlyAnswer) (bytes : Bytes) : Prop :=
  answer.okay = true ∧ ∃ text, answer.result = some text ∧ Hex.Spells text bytes

/-- The other side did not do what it was asked: there is no value, or the value says so. -/
def Refused (answer : ReadOnlyAnswer) : Prop :=
  answer.okay = false ∨ answer.result = none ∨
    ∃ bytes data, answer.Carries bytes ∧ ofBytes bytes = .ok (Value.response false data)

/-- **The value in an answer** is the one that its bytes hold. -/
theorem value_eq_ok_iff :
    answer.value = .ok value ↔ ∃ bytes, answer.Carries bytes ∧ ofBytes bytes = .ok value := by
  obtain ⟨okay, result, cause⟩ := answer
  cases okay with
  | false => simp [ReadOnlyAnswer.value, Carries]
  | true =>
    cases result with
    | none => simp [ReadOnlyAnswer.value, Carries]
    | some text =>
      show (ofHex text).mapError RegistryFault.chain = .ok value ↔ _
      simp [Except.mapError_eq_ok_iff, ofHex_eq_ok_iff, Hex.decodeTagged_eq_ok_iff, Carries]

/-- The other side is to blame for a value that is not there, not for one that cannot be
    read. -/
theorem exists_value_eq_remote_iff :
    (∃ cause, answer.value = .error (.remote cause)) ↔
      answer.okay = false ∨ answer.result = none := by
  obtain ⟨okay, result, cause⟩ := answer
  cases okay with
  | false => simp [ReadOnlyAnswer.value]
  | true =>
    cases result with
    | none => simp [ReadOnlyAnswer.value]
    | some text =>
      show (∃ cause, (ofHex text).mapError RegistryFault.chain = .error (.remote cause)) ↔ _
      simp [Except.mapError_eq_error_iff]

/-- If a reader blames the other side for nothing but responses that are not committed, the
    other side is to blame exactly if it refused. -/
theorem exists_remote_iff {α : Type} {read : Value → Except RegistryFault α}
    (hread : ∀ value, (∃ cause, read value = .error (.remote cause)) ↔
      ∃ data, value = .response false data) :
    (∃ cause, answer.value >>= read = .error (.remote cause)) ↔ answer.Refused := by
  -- either there is no value, or the reader objects to the one that there is
  have hsplit : (∃ cause, answer.value >>= read = .error (.remote cause)) ↔
      (∃ cause, answer.value = .error (.remote cause)) ∨
        ∃ value, answer.value = .ok value ∧ ∃ cause, read value = .error (.remote cause) := by
    simp only [Except.bind_eq_error_iff, exists_or]
    refine or_congr_right ?_
    rw [exists_comm]
    simp only [exists_and_left]
  simp only [hsplit, hread, exists_value_eq_remote_iff, value_eq_ok_iff, Refused, or_assoc]
  refine or_congr_right (or_congr_right ?_)
  constructor
  · rintro ⟨_, ⟨bytes, hcarries, hbytes⟩, data, rfl⟩
    exact ⟨bytes, data, hcarries, hbytes⟩
  · rintro ⟨bytes, data, hcarries, hbytes⟩
    exact ⟨_, ⟨bytes, hcarries, hbytes⟩, data, rfl⟩

end ReadOnlyAnswer

/-! ### Prices and flags in values -/

section

variable {value : Value} {expected : String}

theorem committed_eq_ok_iff {data : Value} :
    committed expected value = .ok data ↔ value = .response true data := by
  fun_cases committed expected value with
  | case1 found => simp
  | case2 found => simp
  | case3 other hcommitted hrefused =>
    refine iff_of_false (by simp) ?_
    rintro rfl
    exact hcommitted data rfl

/-- A reader of what a committed response holds that blames the other side for nothing blames
    it for responses that are not committed. -/
theorem exists_committed_remote_iff {α : Type} {take : Value → Except RegistryFault α}
    (htake : ∀ data cause, take data ≠ .error (.remote cause)) :
    (∃ cause, committed expected value >>= take = .error (.remote cause)) ↔
      ∃ data, value = .response false data := by
  -- taking the data out does not fail for the service, so only the commitment does
  simp only [Except.bind_eq_error_iff, htake, and_false, exists_false, or_false]
  fun_cases committed expected value with
  | case1 found => simp
  | case2 found => simp
  | case3 other hcommitted hrefused =>
    refine iff_of_false (by simp) ?_
    rintro ⟨data, rfl⟩
    exact hrefused data rfl

/-- Values with a price are committed responses around an unsigned number or a signed one that
    is not negative. -/
theorem readPrice_eq_ok_iff {price : BitVec 128} :
    readPrice value = .ok price ↔ value = .response true (.uint price) ∨
      price.toNat < 2 ^ 127 ∧ value = .response true (.int price) := by
  -- the upper half of the numbers of 128 bits are the negative ones
  have hsign : 0 ≤ price.toInt ↔ price.toNat < 2 ^ 127 := by
    rw [BitVec.toInt_pos_iff]
    omega
  rw [← hsign]
  simp only [readPrice, Except.bind_eq_ok_iff, committed_eq_ok_iff]
  constructor
  · rintro ⟨data, rfl, hdata⟩
    split at hdata
    · obtain rfl := Except.ok.inj hdata
      exact .inl rfl
    · split at hdata
      · next hpositive =>
        obtain rfl := Except.ok.inj hdata
        exact .inr ⟨hpositive, rfl⟩
      · cases hdata
    · cases hdata
  · rintro (rfl | ⟨hpositive, rfl⟩)
    · exact ⟨_, rfl, rfl⟩
    · exact ⟨_, rfl, if_pos hpositive⟩

/-- Values with a flag are committed responses around it. -/
theorem readFlag_eq_ok_iff {flag : Bool} :
    readFlag value = .ok flag ↔ value = .response true (.bool flag) := by
  simp only [readFlag, Except.bind_eq_ok_iff, committed_eq_ok_iff]
  constructor
  · rintro ⟨data, rfl, hdata⟩
    split at hdata
    · obtain rfl := Except.ok.inj hdata
      rfl
    · cases hdata
  · rintro rfl
    exact ⟨_, rfl, rfl⟩

/-- A price is reported as refused by the registry exactly if the response is an error. -/
theorem exists_readPrice_eq_remote_iff :
    (∃ cause, readPrice value = .error (.remote cause)) ↔
      ∃ data, value = .response false data := by
  refine exists_committed_remote_iff fun data cause => ?_
  split
  · simp
  · split <;> simp
  · simp

/-- A flag is reported as refused by the registry exactly if the response is an error. -/
theorem exists_readFlag_eq_remote_iff :
    (∃ cause, readFlag value = .error (.remote cause)) ↔
      ∃ data, value = .response false data := by
  refine exists_committed_remote_iff fun data cause => ?_
  split <;> simp

end

namespace ReadOnlyAnswer

variable {answer : ReadOnlyAnswer}

/-! ### Prices and flags in answers -/

/-- An answer holds a committed response around a value without values inside if its bytes are
    the two tags and then the content of that value. -/
theorem value_eq_committed_iff {data : Value} {content : Bytes}
    (hleaf : data.kind.isNested = false)
    (hcontent : data.encodeContent (Value.encodeWithin (maxDepth - 2)) = .ok content) :
    answer.value = .ok (.response true data) ↔
      answer.Carries (7 :: code data.kind :: content) := by
  have hform : Value.encodeWithin (maxDepth - 1) data = .ok (code data.kind :: content) :=
    Value.encodeWithin_of_content hcontent
  -- a leaf has one form, so no other bytes are read as this response
  have hbytes (bytes : Bytes) : ofBytes bytes = .ok (Value.response true data) ↔
      bytes = 7 :: code data.kind :: content := by
    rw [Value.ofBytes_response_iff (by simp [hleaf]), hform]
    simp
  simp only [value_eq_ok_iff, hbytes, exists_eq_right]

/-- **What an answer is taken for.** It is a price if its bytes are a committed response around
    an unsigned number, or around a signed one that is not negative, and a flag if they are one
    around a flag. The other side is to blame if the call was not evaluated, no value came with
    the answer, or its bytes hold a response that is not committed. -/
theorem readPrice_readFlag_outcome (answer : ReadOnlyAnswer) :
    (∀ price, answer.value >>= readPrice = .ok price ↔
      answer.Carries (7 :: 1 :: Bytes.ofNat 16 price.toNat) ∨
        price.toNat < 2 ^ 127 ∧ answer.Carries (7 :: 0 :: Bytes.ofNat 16 price.toNat)) ∧
    (∀ flag, answer.value >>= readFlag = .ok flag ↔
      answer.Carries [7, if flag then 3 else 4]) ∧
    ((∃ cause, answer.value >>= readPrice = .error (.remote cause)) ↔ answer.Refused) ∧
    ((∃ cause, answer.value >>= readFlag = .error (.remote cause)) ↔ answer.Refused) := by
  refine ⟨fun price => ?_, fun flag => ?_, ?_, ?_⟩
  · -- the two values with a price differ in the inner tag
    have huint : answer.value = .ok (.response true (.uint price)) ↔
        answer.Carries (7 :: 1 :: Bytes.ofNat 16 price.toNat) := value_eq_committed_iff rfl rfl
    have hint : answer.value = .ok (.response true (.int price)) ↔
        answer.Carries (7 :: 0 :: Bytes.ofNat 16 price.toNat) := value_eq_committed_iff rfl rfl
    simp only [Except.bind_eq_ok_iff, readPrice_eq_ok_iff, ← huint, ← hint]
    constructor
    · rintro ⟨_, hread, rfl | ⟨hpositive, rfl⟩⟩
      · exact .inl hread
      · exact .inr ⟨hpositive, hread⟩
    · rintro (hread | ⟨hpositive, hread⟩)
      · exact ⟨_, hread, .inl rfl⟩
      · exact ⟨_, hread, .inr ⟨hpositive, rfl⟩⟩
  · have hbool : answer.value = .ok (.response true (.bool flag)) ↔
        answer.Carries [7, if flag then 3 else 4] := by
      cases flag with
      | false => exact value_eq_committed_iff rfl rfl
      | true => exact value_eq_committed_iff rfl rfl
    simp only [Except.bind_eq_ok_iff, readFlag_eq_ok_iff, exists_eq_right, hbool]
  · exact exists_remote_iff fun value => exists_readPrice_eq_remote_iff
  · exact exists_remote_iff fun value => exists_readFlag_eq_remote_iff

/-- A flag in a committed response, and one in a response that is not committed. -/
example : ((⟨true, some "0x0703", none⟩ : ReadOnlyAnswer).value >>= readFlag) = .ok true ∧
    ((⟨true, some "0803", none⟩ : ReadOnlyAnswer).value >>= readFlag) =
      .error (.remote "true") := by decide +kernel

end ReadOnlyAnswer

end Registrar.Registry
