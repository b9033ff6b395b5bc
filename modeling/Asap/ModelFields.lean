import Asap.OrderedDict
import Asap.PythonValue

-- Fields of validated models: what a value of a field's type is dumped to, and what is read
-- from a document for it.
namespace ModelFields
open OrderedDict PythonValue

-- Texts, finite numbers, booleans, null, lists and objects with texts as keys.
mutual
def isJson : Value → Bool
  | .none | .bool _ | .int _ | .float _ _ | .str _ => true
  | .nonFinite _ | .other _ => false
  | .list items => listIsJson items
  | .dict items => itemsAreJson items
def listIsJson : List Value → Bool
  | [] => true
  | value :: rest => isJson value && listIsJson rest
def itemsAreJson : List (Key × Value) → Bool
  | [] => true
  | (key,value) :: rest => key.string.isSome && isJson value && itemsAreJson rest
end

theorem listIsJson_all (items : List Value) : listIsJson items = items.all isJson := by
  induction items with
  | nil => rfl
  | cons value rest ih => rw [listIsJson,List.all_cons,ih]

theorem itemsAreJson_all (items : List (Key × Value)) :
    itemsAreJson items = items.all (fun item => item.1.string.isSome && isJson item.2) := by
  induction items with
  | nil => rfl
  | cons item rest ih => rw [itemsAreJson,List.all_cons,ih]

-- `plain` are the values that are dumped to JSON; those are read back as they were.
structure Codec (α : Type) where
  dump : α → Value
  read : Value → Option α
  plain : α → Bool
  json : ∀ a, isJson (dump a) = plain a
  reads : ∀ a, plain a = true → read (dump a) = some a

-- What validation makes of a value that has not the type of the field.
structure Conversions where
  bool : Value → Option Bool
  int : Value → Option Int
  float : Value → Option (Rat × String)
  datetime : Value → Option DateTime

inductive PyFloat where
  | finite (value : Rat) (repr : String)
  | nonFinite (repr : String)

def str : Codec String where
  dump := .str
  read
    | .str text => some text
    | _ => none
  plain _ := true
  json _ := rfl
  reads _ _ := rfl

def bool (conversions : Conversions) : Codec Bool where
  dump := .bool
  read
    | .bool value => some value
    | value => conversions.bool value
  plain _ := true
  json _ := rfl
  reads _ _ := rfl

def int (conversions : Conversions) : Codec Int where
  dump := .int
  read
    | .int value => some value
    | value => conversions.int value
  plain _ := true
  json _ := rfl
  reads _ _ := rfl

def float (conversions : Conversions) : Codec PyFloat where
  dump
    | .finite value repr => .float value repr
    | .nonFinite repr => .nonFinite repr
  read
    | .float value repr => some (.finite value repr)
    | .nonFinite repr => some (.nonFinite repr)
    | value => (conversions.float value).map (fun (value,repr) => .finite value repr)
  plain
    | .finite _ _ => true
    | .nonFinite _ => false
  json a := by cases a <;> rfl
  reads a fits := by
    cases a with
    | finite => rfl
    | nonFinite => cases fits

-- The dump keeps the object, of which only its text is known here.
def datetime (conversions : Conversions) : Codec DateTime where
  dump t := .other t.isoformat
  read := conversions.datetime
  plain _ := false
  json _ := rfl
  reads _ fits := by cases fits

-- An enumeration of texts.
structure Enumeration (α : Type) where
  all : List α
  text : α → String
  known : ∀ a, all.find? (fun b => decide (text b = text a)) = some a

def Enumeration.codec (e : Enumeration α) : Codec α where
  dump a := .str (e.text a)
  read
    | .str text => e.all.find? (fun b => decide (e.text b = text))
    | _ => none
  plain _ := true
  json _ := rfl
  reads a _ := e.known a

def list (c : Codec α) : Codec (List α) where
  dump items := .list (items.map c.dump)
  read
    | .list items => items.mapM c.read
    | _ => none
  plain items := items.all c.plain
  json items := by
    rw [isJson,listIsJson_all,List.all_map]
    congr 1
    funext a
    exact c.json a
  reads items fits := by
    simp only
    induction items with
    | nil => rfl
    | cons a rest ih =>
      simp only [List.all_cons,Bool.and_eq_true] at fits
      simp [c.reads a fits.1,ih fits.2]

-- A field that may be null.
def optional (c : Codec α) (filled : ∀ a, c.dump a ≠ .none) : Codec (Option α) where
  dump
    | none => .none
    | some a => c.dump a
  read
    | .none => some none
    | value => (c.read value).map some
  plain
    | none => true
    | some a => c.plain a
  json a := by
    cases a with
    | none => rfl
    | some a => exact c.json a
  reads a fits := by
    cases a with
    | none => rfl
    | some a =>
      simp only
      split
      · rename_i null
        exact absurd null (filled a)
      · rw [c.reads a fits,Option.map_some]

-- Any object with texts as keys.
def object : Codec (Dict String Value) where
  dump dict := .dict (dict.entries.map (fun item => (.str item.1,item.2)))
  read
    | .dict items =>
      match items.mapM (fun item => item.1.string.map (fun key => (key,item.2))) with
      | none => none
      | some entries => if distinct : (entries.map Prod.fst).Nodup then some ⟨entries,distinct⟩ else none
    | _ => none
  plain dict := dict.entries.all (fun item => isJson item.2)
  json dict := by
    rw [isJson,itemsAreJson_all,List.all_map]
    rfl
  reads dict _ := by
    have keyed : (dict.entries.map (fun item => ((.str item.1 : Key),item.2))).mapM
        (fun item => item.1.string.map (fun key => (key,item.2))) = some dict.entries := by
      generalize dict.entries = entries
      induction entries with
      | nil => rfl
      | cons item rest ih =>
        rw [List.map_cons,List.mapM_cons,ih]
        rfl
    simp only [keyed,dif_pos dict.distinct]

-- A model refuses members it does not know.
def onlyKeys (names : List String) (items : List (Key × Value)) : Bool :=
  items.all (fun item => item.1.string.any (fun name => decide (name ∈ names)))

def required (c : Codec α) (name : String) (items : List (Key × Value)) : Option α := (lookupItem name items).bind c.read

def defaulted (c : Codec α) (default : α) (name : String) (items : List (Key × Value)) : Option α :=
  match lookupItem name items with
  | none => some default
  | some value => c.read value

end ModelFields
