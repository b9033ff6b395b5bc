import Mathlib.Data.List.Infix

-- `sanitize_for_logging` on JSON objects.
namespace Asap.LogRedaction

-- The fields of an object are a dictionary's items: no two of one key.
inductive Json where
  | null
  | bool (value : Bool)
  | number (text : String)
  | str (text : String)
  | list (items : List Json)
  | object (fields : List (String × Json))

def redactedPlaceholder : String := "***REDACTED***"

def sensitiveKeyPatterns : List String :=
  ["password","token","secret","key","authorization","auth","credential","api_key","apikey","access_token","refresh_token"]

-- `str.lower` stands for itself.
variable (lower : String → String)

def isSensitiveKey (key : String) : Bool := sensitiveKeyPatterns.any (fun pattern => decide (pattern.toList <:+: (lower key).toList))

mutual
def sanitizeForLogging : List (String × Json) → List (String × Json)
  | [] => []
  | (k,v) :: rest => (k,if isSensitiveKey lower k then .str redactedPlaceholder else sanitizeValue v) :: sanitizeForLogging rest

def sanitizeValue : Json → Json
  | .object fields => .object (sanitizeForLogging fields)
  | .list items => .list (sanitizeItems items)
  | value => value

def sanitizeItems : List Json → List Json
  | [] => []
  | item :: rest => sanitizeItem item :: sanitizeItems rest

-- An item that is a list itself stays as it is.
def sanitizeItem : Json → Json
  | .object fields => .object (sanitizeForLogging fields)
  | item => item
end

-- Objects that differ only in what is stored under sensitive keys, at any depth.
mutual
inductive Same : Json → Json → Prop where
  | same (value : Json) : Same value value
  | list (left right : List Json) (items : SameItems left right) : Same (.list left) (.list right)
  | object (left right : List (String × Json)) (fields : SameFields left right) : Same (.object left) (.object right)

inductive SameItems : List Json → List Json → Prop where
  | nil : SameItems [] []
  | cons (left right : Json) (lefts rights : List Json) (item : Same left right) (rest : SameItems lefts rights) :
      SameItems (left :: lefts) (right :: rights)

inductive SameFields : List (String × Json) → List (String × Json) → Prop where
  | nil : SameFields [] []
  | hidden (key : String) (left right : Json) (lefts rights : List (String × Json)) (sensitive : isSensitiveKey lower key = true)
      (rest : SameFields lefts rights) : SameFields ((key,left) :: lefts) ((key,right) :: rights)
  | shown (key : String) (left right : Json) (lefts rights : List (String × Json)) (value : Same left right)
      (rest : SameFields lefts rights) : SameFields ((key,left) :: lefts) ((key,right) :: rights)
end

-- The lists that stand directly in lists, outside of one another and of sensitive keys.
mutual
def buriedFields : List (String × Json) → List Json
  | [] => []
  | (k,v) :: rest => (if isSensitiveKey lower k then [] else buriedValue v) ++ buriedFields rest

def buriedValue : Json → List Json
  | .object fields => buriedFields fields
  | .list items => buriedItems items
  | _ => []

def buriedItems : List Json → List Json
  | [] => []
  | item :: rest => buriedItem item ++ buriedItems rest

def buriedItem : Json → List Json
  | .object fields => buriedFields fields
  | .list items => [.list items]
  | _ => []
end

-- Objects alike outside of sensitive keys bury as many lists.
mutual
theorem buriedFields_length {left right : List (String × Json)} (same : SameFields lower left right) :
    (buriedFields lower left).length = (buriedFields lower right).length := by
  cases same with
  | nil => rfl
  | hidden key left right lefts rights sensitive rest =>
    simp only [buriedFields,if_pos sensitive,List.nil_append]
    exact buriedFields_length rest
  | shown key left right lefts rights value rest =>
    simp only [buriedFields,List.length_append,buriedFields_length rest]
    split
    · rfl
    · rw [buriedValue_length value]

theorem buriedValue_length {left right : Json} (same : Same lower left right) :
    (buriedValue lower left).length = (buriedValue lower right).length := by
  cases same with
  | same => rfl
  | list left right items =>
    simp only [buriedValue]
    exact buriedItems_length items
  | object left right fields =>
    simp only [buriedValue]
    exact buriedFields_length fields

theorem buriedItems_length {left right : List Json} (same : SameItems lower left right) :
    (buriedItems lower left).length = (buriedItems lower right).length := by
  cases same with
  | nil => rfl
  | cons left right lefts rights item rest =>
    simp only [buriedItems,List.length_append,buriedItems_length rest,buriedItem_length item]

theorem buriedItem_length {left right : Json} (same : Same lower left right) :
    (buriedItem lower left).length = (buriedItem lower right).length := by
  cases same with
  | same => rfl
  | list => simp only [buriedItem,List.length_singleton]
  | object left right fields =>
    simp only [buriedItem]
    exact buriedFields_length fields
end

-- Two parts of equal texts, the first parts being of one length.
theorem append_eq_iff {first second first' second' : List α} (length : first.length = first'.length) :
    first ++ second = first' ++ second' ↔ first = first' ∧ second = second' :=
  ⟨fun same => List.append_inj same length,fun both => by rw [both.1,both.2]⟩

-- They are redacted to one object exactly if the lists they bury are the same.
mutual
theorem fields_exact {left right : List (String × Json)} (same : SameFields lower left right) :
    sanitizeForLogging lower left = sanitizeForLogging lower right ↔ buriedFields lower left = buriedFields lower right := by
  cases same with
  | nil => exact iff_of_true rfl rfl
  | hidden key left right lefts rights sensitive rest =>
    simp only [sanitizeForLogging,buriedFields,if_pos sensitive,List.nil_append,List.cons.injEq,true_and]
    exact fields_exact rest
  | shown key left right lefts rights value rest =>
    by_cases sensitive : isSensitiveKey lower key = true
    · simp only [sanitizeForLogging,buriedFields,if_pos sensitive,List.nil_append,List.cons.injEq,true_and]
      exact fields_exact rest
    · simp only [sanitizeForLogging,buriedFields,if_neg sensitive,List.cons.injEq,Prod.mk.injEq,true_and]
      rw [append_eq_iff (buriedValue_length lower value),value_exact value,fields_exact rest]

theorem value_exact {left right : Json} (same : Same lower left right) :
    sanitizeValue lower left = sanitizeValue lower right ↔ buriedValue lower left = buriedValue lower right := by
  cases same with
  | same => exact iff_of_true rfl rfl
  | list left right items =>
    simp only [sanitizeValue,buriedValue,Json.list.injEq]
    exact items_exact items
  | object left right fields =>
    simp only [sanitizeValue,buriedValue,Json.object.injEq]
    exact fields_exact fields

theorem items_exact {left right : List Json} (same : SameItems lower left right) :
    sanitizeItems lower left = sanitizeItems lower right ↔ buriedItems lower left = buriedItems lower right := by
  cases same with
  | nil => exact iff_of_true rfl rfl
  | cons left right lefts rights item rest =>
    simp only [sanitizeItems,buriedItems,List.cons.injEq]
    rw [append_eq_iff (buriedItem_length lower item),item_exact item,items_exact rest]

theorem item_exact {left right : Json} (same : Same lower left right) :
    sanitizeItem lower left = sanitizeItem lower right ↔ buriedItem lower left = buriedItem lower right := by
  cases same with
  | same => exact iff_of_true rfl rfl
  | list => simp only [sanitizeItem,buriedItem,List.cons.injEq,and_true]
  | object left right fields =>
    simp only [sanitizeItem,buriedItem,Json.object.injEq]
    exact fields_exact fields
end

-- The way to a value, through the keys of objects and the indices of lists.
inductive Step where
  | key (key : String)
  | index (index : Nat)

def Json.at : Json → List Step → Option Json
  | value,[] => some value
  | .object fields,.key key :: path => (fields.find? (fun row => decide (row.1 = key))).bind (fun row => row.2.at path)
  | .list items,.index index :: path => items[index]?.bind (fun item => item.at path)
  | _,_ :: _ => none

-- What stands at a place: a plain value, or a container with its keys or its length.
inductive Head where
  | plain (value : Json)
  | list (length : Nat)
  | object (keys : List String)

def Json.head : Json → Head
  | .object fields => .object (fields.map Prod.fst)
  | .list items => .list items.length
  | value => .plain value

-- No sensitive key is on the way.
def Clear (path : List Step) : Prop := ∀ key, .key key ∈ path → isSensitiveKey lower key = false

theorem sanitizeForLogging_map (fields : List (String × Json)) : sanitizeForLogging lower fields =
    fields.map (fun row => (row.1,if isSensitiveKey lower row.1 then .str redactedPlaceholder else sanitizeValue lower row.2)) := by
  induction fields with
  | nil => simp only [sanitizeForLogging,List.map_nil]
  | cons row rest ih => simp only [sanitizeForLogging,List.map_cons,ih]

theorem sanitizeItems_map (items : List Json) : sanitizeItems lower items = items.map (sanitizeItem lower) := by
  induction items with
  | nil => simp only [sanitizeItems,List.map_nil]
  | cons item rest ih => simp only [sanitizeItems,List.map_cons,ih]

theorem fields_keys (fields : List (String × Json)) : (sanitizeForLogging lower fields).map Prod.fst = fields.map Prod.fst := by
  rw [sanitizeForLogging_map,List.map_map]
  rfl

theorem find_sanitized (fields : List (String × Json)) {key : String} (clear : isSensitiveKey lower key = false) :
    (sanitizeForLogging lower fields).find? (fun row => decide (row.1 = key)) =
      (fields.find? (fun row => decide (row.1 = key))).map (fun row => (row.1,sanitizeValue lower row.2)) := by
  rw [sanitizeForLogging_map]
  induction fields with
  | nil => rfl
  | cons row rest ih =>
    by_cases same : row.1 = key
    · simp [same,clear]
    · simp [same,ih]

-- On a way without sensitive keys, redaction changes nothing.
theorem kept_at (path : List Step) (clear : Clear lower path) :
    (∀ value : Json, ((sanitizeValue lower value).at path).map Json.head = (value.at path).map Json.head) ∧
    ∀ item : Json, ((sanitizeItem lower item).at path).map Json.head = (item.at path).map Json.head := by
  induction path with
  | nil =>
    constructor
    · intro value
      cases value <;> simp [sanitizeValue,Json.at,fields_keys,sanitizeItems_map,Json.head]
    · intro item
      cases item <;> simp [sanitizeItem,Json.at,fields_keys,Json.head]
  | cons step path ih =>
    have rest := ih (fun key member => clear key (List.mem_cons_of_mem _ member))
    have fieldsKept (fields : List (String × Json)) :
        ((Json.object (sanitizeForLogging lower fields)).at (step :: path)).map Json.head = ((Json.object fields).at (step :: path)).map Json.head := by
      cases step with
      | index index => rfl
      | key key =>
        simp only [Json.at]
        rw [find_sanitized lower fields (clear key List.mem_cons_self)]
        cases fields.find? (fun row => decide (row.1 = key)) with
        | none => rfl
        | some row => exact rest.1 row.2
    constructor
    · intro value
      cases value with
      | object fields => simpa only [sanitizeValue] using fieldsKept fields
      | list items =>
        cases step with
        | key key => simp only [sanitizeValue,Json.at]
        | index index =>
          simp only [sanitizeValue,Json.at,sanitizeItems_map,List.getElem?_map]
          cases items[index]? with
          | none => rfl
          | some item => exact rest.2 item
      | null | bool | number | str => rfl
    · intro item
      cases item with
      | object fields => simpa only [sanitizeItem] using fieldsKept fields
      | list | null | bool | number | str => rfl

-- Redaction hides what is stored under sensitive keys exactly if it stands in no buried list, and keeps
-- every value that is not below a sensitive key.
theorem redaction_noninterfering_iff (left right : List (String × Json)) (same : SameFields lower left right) :
    (sanitizeForLogging lower left = sanitizeForLogging lower right ↔ buriedFields lower left = buriedFields lower right) ∧
    ∀ path, Clear lower path →
      ((Json.object (sanitizeForLogging lower left)).at path).map Json.head = ((Json.object left).at path).map Json.head := by
  refine ⟨fields_exact lower same,fun path clear => ?_⟩
  have kept := (kept_at lower path clear).1 (.object left)
  simpa only [sanitizeValue] using kept

-- ASCII keys in lower case.
def asciiLower (text : String) : String := text.map Char.toLower

def rowsWith (password : String) : List (String × Json) :=
  [("rows",.list [.list [.object [("Password",.str password)]]])]

def userWith (password : String) : List (String × Json) :=
  [("user",.str "alice"),("Password",.str password),("logins",.list [.object [("session_token",.str password),("ok",.bool true)]])]

theorem rows_sensitive : isSensitiveKey asciiLower "Password" = true := by decide +kernel
theorem rows_insensitive : isSensitiveKey asciiLower "rows" = false := by decide +kernel

theorem rows_same (left right : String) : SameFields asciiLower (rowsWith left) (rowsWith right) :=
  .shown _ _ _ _ _ (.list _ _ (.cons _ _ _ _ (.list _ _ (.cons _ _ _ _ (.object _ _ (.hidden _ _ _ _ _ rows_sensitive .nil)) .nil)) .nil)) .nil

theorem rows_leak : SameFields asciiLower (rowsWith "one") (rowsWith "two") ∧
    sanitizeForLogging asciiLower (rowsWith "one") ≠ sanitizeForLogging asciiLower (rowsWith "two") := by
  refine ⟨rows_same "one" "two",fun same => ?_⟩
  simp [rowsWith,sanitizeForLogging,sanitizeValue,sanitizeItems,sanitizeItem,rows_insensitive] at same

theorem user_same (left right : String) : SameFields asciiLower (userWith left) (userWith right) :=
  .shown _ _ _ _ _ (.same _) (.hidden _ _ _ _ _ rows_sensitive (.shown _ _ _ _ _
    (.list _ _ (.cons _ _ _ _ (.object _ _ (.hidden _ _ _ _ _ (by decide +kernel) (.shown _ _ _ _ _ (.same _) .nil))) .nil)) .nil))

theorem redaction_noninterfering_user :
    sanitizeForLogging asciiLower (userWith "one") = sanitizeForLogging asciiLower (userWith "two") ∧
    ((Json.object (sanitizeForLogging asciiLower (userWith "one"))).at [.key "user"]).map Json.head = some (.plain (.str "alice")) := by
  have redacted := redaction_noninterfering_iff asciiLower (userWith "one") (userWith "two") (user_same "one" "two")
  refine ⟨redacted.1.mpr ?_,(redacted.2 [.key "user"] ?_).trans rfl⟩
  · simp only [userWith,buriedFields,buriedValue,buriedItems,buriedItem,ite_self,List.append_nil]
  · intro key member
    cases List.mem_singleton.mp member
    decide +kernel

end Asap.LogRedaction
