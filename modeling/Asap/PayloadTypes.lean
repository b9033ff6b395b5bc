import Mathlib.Data.List.Basic

-- The spellings of a payload type, and the key that they share.
namespace Asap.PayloadTypes

-- `str.lower` and `str.isalnum` over Python's character tables, known on ASCII.
structure Texts where
  lower : String → String
  isalnum : Char → Bool
  lowerAscii : ∀ text, (∀ c ∈ text.toList, c.toNat < 128) → lower text = String.ofList (text.toList.map Char.toLower)
  alnumAscii : ∀ c : Char, c.toNat < 128 → isalnum c = c.isAlphanum

variable (texts : Texts)

def normalizePayloadType (pt : String) : String := String.ofList ((texts.lower pt).toList.filter texts.isalnum)

theorem lower_ascii (c : Char) (ascii : c.toNat < 128) : c.toLower.toNat < 128 := by
  have table : ∀ n < 128, (Char.ofNat n).toLower.toNat < 128 := by decide +kernel
  have same := table c.toNat ascii
  rwa [Char.ofNat_toNat] at same

theorem normalize_ascii (pt : String) (ascii : ∀ c ∈ pt.toList, c.toNat < 128) :
    normalizePayloadType texts pt = String.ofList ((pt.toList.map Char.toLower).filter Char.isAlphanum) := by
  unfold normalizePayloadType
  rw [texts.lowerAscii pt ascii,String.toList_ofList]
  congr 1
  apply List.filter_congr
  intro c member
  obtain ⟨source,inside,rfl⟩ := List.mem_map.mp member
  exact texts.alnumAscii _ (lower_ascii source (ascii source inside))

-- The tables on ASCII alone.
def asciiTexts : Texts where
  lower text := String.ofList (text.toList.map Char.toLower)
  isalnum := Char.isAlphanum
  lowerAscii _ _ := rfl
  alnumAscii _ _ := rfl

end Asap.PayloadTypes
