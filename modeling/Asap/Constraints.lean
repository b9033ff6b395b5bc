import Asap.Capabilities
import Asap.HostJwt

namespace Asap.Constraints
open OrderedDict PythonValue Capabilities
open HostJwt (FloatValue)

def operatorKeys : List String := ["max","min","in","not_in"]

structure ConstraintViolation where
  field : String
  operator : String
  expected : Value
  actual : Value
  message : String

def number : Value → Option FloatValue
  | .nonFinite text =>
    some (if text = "Infinity" then .infinity true else if text = "-Infinity" then .infinity false else .nan)
  | value => value.number.map .finite

def isNan (value : Value) : Bool :=
  match number value with
  | some .nan => true
  | _ => false

-- `==`. The JSON parser has one NaN: it is not equal to itself, but inside lists and
-- objects it is found by identity.
def equals (left right : Value) : Bool := left.same right && !isNan left

def less : FloatValue → FloatValue → Bool
  | .nan,_ | _,.nan => false
  | .finite a,.finite b => decide (a < b)
  | .finite _,.infinity positive => positive
  | .infinity positive,.finite _ => !positive
  | .infinity left,.infinity right => !left && right

def typeName : Value → String
  | .none => "NoneType"
  | .bool _ => "bool"
  | .int _ => "int"
  | .float _ _ | .nonFinite _ => "float"
  | .str _ => "str"
  | .list _ => "list"
  | .dict _ => "dict"
  | .other _ => "object"

def keyValue : Key → Value
  | .none => .none
  | .bool value => .bool value
  | .int value => .int value
  | .float value repr => .float value repr
  | .infinity positive => .nonFinite (if positive then "Infinity" else "-Infinity")
  | .str value => .str value

-- `actual in expected`; `none` is the TypeError of what is no container, of a text asked
-- for something else than a text, and of a dictionary asked for what has no hash.
def isIn (actual expected : Value) : Option Bool :=
  match expected with
  | .list items => some (items.any actual.same)
  | .str text => match actual with
    | .str part => some (containsText part text)
    | _ => none
  | .dict items => match actual with
    | .list _ | .dict _ => none
    | _ => some (items.any (fun item => actual.same (keyValue item.1)))
  | _ => none

-- `repr` is Python's; for a number `str` gives the same text.
variable (repr : Value → String)

-- `max` and `min` in one: `exceeds` is the comparison that makes a violation. The outer
-- `none` is the TypeError of a bound that is no number.
def checkBound (field operator : String) (expected actual : Value) (exceeds : FloatValue → FloatValue → Bool) (wording : String) :
    Option (Option ConstraintViolation) :=
  match number actual with
  | none => some (some ⟨field,operator,expected,actual,field ++ ": expected a number, got " ++ typeName actual⟩)
  | some value =>
    match number expected with
    | none => none
    | some bound =>
      some (if exceeds value bound then
        some ⟨field,operator,expected,actual,field ++ ": " ++ repr actual ++ wording ++ repr expected⟩ else none)

def checkOperator (field operator : String) (expected actual : Value) : Option (Option ConstraintViolation) :=
  if operator = "max" then checkBound repr field operator expected actual (fun value bound => less bound value) " exceeds maximum "
  else if operator = "min" then checkBound repr field operator expected actual less " is below minimum "
  else if operator = "in" then
    (isIn actual expected).map (fun inside => if inside then none else
      some ⟨field,operator,expected,actual,field ++ ": " ++ repr actual ++ " not in allowed values " ++ repr expected⟩)
  else if operator = "not_in" then
    (isIn actual expected).map (fun inside => if inside then
      some ⟨field,operator,expected,actual,field ++ ": " ++ repr actual ++ " is in forbidden values " ++ repr expected⟩ else none)
  else some none

def checkOperators (field : String) (actual : Value) : List (Key × Value) → Option (List ConstraintViolation)
  | [] => some []
  | (op,expected) :: rest =>
    if op.text ∉ operatorKeys then checkOperators field actual rest
    else match checkOperator repr field op.text expected actual with
      | none => none
      | some violation => (checkOperators field actual rest).map (fun later => violation.toList ++ later)

-- One turn of the loop of `validate_constraints`.
def checkField (field : String) (spec : Value) (arguments : List (Key × Value)) : Option (List ConstraintViolation) :=
  match (lookupItem field arguments).getD .none with
  | .none => some [⟨field,"required",spec,.none,field ++ ": missing required argument"⟩]
  | actual =>
    let plain := some (if equals actual spec then [] else
      [⟨field,"eq",spec,actual,field ++ ": expected " ++ repr spec ++ ", got " ++ repr actual⟩])
    match spec with
    | .dict items => if items.any (fun item => decide (item.1.text ∈ operatorKeys)) then checkOperators repr field actual items else plain
    | _ => plain

-- The fields are texts; `none` is a TypeError on the way.
def validateConstraints (constraints arguments : List (Key × Value)) : Option (List ConstraintViolation) :=
  match constraints with
  | [] => some []
  | (field,spec) :: rest =>
    match checkField repr field.text spec arguments with
    | none => none
    | some violations => (validateConstraints rest arguments).map (fun later => violations ++ later)

structure GrantCheckResult where
  allowed : Bool
  violations : List ConstraintViolation
  grant : Option CapabilityGrant

-- `None` and an empty object of constraints leave every call unconstrained.
def checkGrant (r : CapabilityRegistry) (now : Int) (agentId capability : String) (arguments : Option (List (Key × Value))) :
    Option GrantCheckResult :=
  match (r.grantsOf agentId).get capability with
  | none => some ⟨false,[],none⟩
  | some g =>
    if g.status ≠ .active then some ⟨false,[],some g⟩
    else if g.expiresAt.any (fun expiry => decide (expiry < now)) then some ⟨false,[],some g⟩
    else
      (validateConstraints repr (g.constraints.getD []) (arguments.getD [])).map (fun violations =>
        ⟨violations.isEmpty,violations,some g⟩)

-- The operators of a spec, none for a plain value.
def operatorItems : Value → List (Key × Value)
  | .dict items => items.filter (fun item => decide (item.1.text ∈ operatorKeys))
  | _ => []

def atMost : FloatValue → FloatValue → Prop
  | .finite a,.finite b => a ≤ b
  | .infinity false,.finite _ | .infinity false,.infinity _ | .finite _,.infinity true | .infinity true,.infinity true => True
  | _,_ => False

theorem atMost_of_not_less {left right : FloatValue} (leftNumber : left ≠ .nan) (rightNumber : right ≠ .nan)
    (fits : less right left = false) : atMost left right := by
  cases left with
  | nan => exact absurd rfl leftNumber
  | finite a =>
    cases right with
    | nan => exact absurd rfl rightNumber
    | finite b => simpa [less,atMost,Rat.not_lt] using fits
    | infinity positive => cases positive <;> simp_all [less,atMost]
  | infinity positive =>
    cases right with
    | nan => exact absurd rfl rightNumber
    | finite b => cases positive <;> simp_all [less,atMost]
    | infinity other => cases positive <;> cases other <;> simp_all [less,atMost]

-- Both are numbers, and in order where neither is a NaN.
def Ordered (low high : Value) : Prop :=
  ∃ a b, number low = some a ∧ number high = some b ∧ (a ≠ .nan → b ≠ .nan → atMost a b)

-- What the operators promise of an argument. Of `in` and `not_in` only what they say of a list.
structure Satisfies (actual : Value) (operator : String) (expected : Value) : Prop where
  max : operator = "max" → Ordered actual expected
  min : operator = "min" → Ordered expected actual
  allowed : operator = "in" → ∀ items, expected = .list items → ∃ item ∈ items, actual.same item = true
  forbidden : operator = "not_in" → ∀ items, expected = .list items → ∀ item ∈ items, actual.same item = false

-- The argument is there, and fits every operator of the spec or is equal to a plain one.
def Fits (arguments : List (Key × Value)) (field : Key) (spec : Value) : Prop :=
  ∃ actual, lookupItem field.text arguments = some actual ∧ actual ≠ .none ∧
    (operatorItems spec = [] → equals actual spec = true) ∧
    ∀ item ∈ operatorItems spec, Satisfies actual item.1.text item.2

theorem checkBound_ordered {field operator wording : String} {expected actual : Value} {exceeds : FloatValue → FloatValue → Bool}
    (passed : checkBound repr field operator expected actual exceeds wording = some none) :
    ∃ value bound, number actual = some value ∧ number expected = some bound ∧ exceeds value bound = false := by
  unfold checkBound at passed
  cases reading : number actual with
  | none => simp [reading] at passed
  | some value =>
    cases limit : number expected with
    | none => simp [reading,limit] at passed
    | some bound => exact ⟨value,bound,rfl,rfl,by simpa [reading,limit] using passed⟩

theorem checkOperator_satisfies {field operator : String} {expected actual : Value}
    (passed : checkOperator repr field operator expected actual = some none) : Satisfies actual operator expected where
  max kind := by
    subst kind
    obtain ⟨value,bound,reading,limit,fits⟩ := checkBound_ordered repr passed
    exact ⟨value,bound,reading,limit,fun low high => atMost_of_not_less low high fits⟩
  min kind := by
    subst kind
    obtain ⟨value,bound,reading,limit,fits⟩ := checkBound_ordered repr passed
    exact ⟨bound,value,limit,reading,fun low high => atMost_of_not_less low high fits⟩
  allowed kind items list := by
    subst kind list
    simpa [checkOperator,isIn] using passed
  forbidden kind items list := by
    subst kind list
    simpa [checkOperator,isIn] using passed

theorem checkOperators_passes (field : String) (actual : Value) (items : List (Key × Value)) :
    checkOperators repr field actual items = some [] ↔
      ∀ item ∈ items, item.1.text ∈ operatorKeys → checkOperator repr field item.1.text item.2 actual = some none := by
  induction items with
  | nil => simp [checkOperators]
  | cons item rest ih =>
    obtain ⟨op,expected⟩ := item
    unfold checkOperators
    by_cases known : op.text ∈ operatorKeys
    · cases checked : checkOperator repr field op.text expected actual with
      | none => simp [known,checked]
      | some violation => cases violation <;> simp [known,checked,ih]
    · simp [known,ih]

-- No violation of one field.
def Passes (arguments : List (Key × Value)) (field : Key) (spec : Value) : Prop :=
  ∃ actual, lookupItem field.text arguments = some actual ∧ actual ≠ .none ∧
    (operatorItems spec = [] → equals actual spec = true) ∧
    ∀ item ∈ operatorItems spec, checkOperator repr field.text item.1.text item.2 actual = some none

theorem operatorItems_dict (items : List (Key × Value)) :
    operatorItems (.dict items) = [] ↔ items.any (fun item => decide (item.1.text ∈ operatorKeys)) = false := by
  simp [operatorItems,List.filter_eq_nil_iff]

theorem checkField_plain {field : Key} {spec actual : Value} {arguments : List (Key × Value)}
    (found : lookupItem field.text arguments = some actual) (present : actual ≠ .none) (plain : operatorItems spec = []) :
    checkField repr field.text spec arguments = some (if equals actual spec then [] else
      [⟨field.text,"eq",spec,actual,field.text ++ ": expected " ++ repr spec ++ ", got " ++ repr actual⟩]) := by
  unfold checkField
  rw [found]
  cases spec with
  | dict items =>
    have none_known := (operatorItems_dict items).mp plain
    cases actual <;> first | exact absurd rfl present | simp [none_known]
  | _ => cases actual <;> first | exact absurd rfl present | rfl

theorem checkField_operators {field : Key} {items : List (Key × Value)} {actual : Value} {arguments : List (Key × Value)}
    (found : lookupItem field.text arguments = some actual) (present : actual ≠ .none) (listed : operatorItems (.dict items) ≠ []) :
    checkField repr field.text (.dict items) arguments = checkOperators repr field.text actual items := by
  have some_known : items.any (fun item => decide (item.1.text ∈ operatorKeys)) = true := by
    simpa using (operatorItems_dict items).not.mp listed
  unfold checkField
  rw [found]
  cases actual <;> first | exact absurd rfl present | simp [some_known]

theorem checkField_passes (field : Key) (spec : Value) (arguments : List (Key × Value)) :
    checkField repr field.text spec arguments = some [] ↔ Passes repr arguments field spec := by
  unfold Passes
  cases found : lookupItem field.text arguments with
  | none => simp [checkField,found]
  | some actual =>
    by_cases missing : actual = .none
    · subst missing
      simp [checkField,found]
    · by_cases plain : operatorItems spec = []
      · simp [checkField_plain repr found missing plain,plain,missing]
      · cases spec with
        | dict items =>
          rw [checkField_operators repr found missing plain,checkOperators_passes]
          have listed : (∀ item ∈ operatorItems (.dict items), checkOperator repr field.text item.1.text item.2 actual = some none) ↔
              ∀ item ∈ items, item.1.text ∈ operatorKeys → checkOperator repr field.text item.1.text item.2 actual = some none := by
            simp [operatorItems]
          rw [← listed]
          simp [plain,missing]
        | _ => exact absurd rfl plain

theorem validateConstraints_passes (constraints arguments : List (Key × Value)) :
    validateConstraints repr constraints arguments = some [] ↔
      ∀ item ∈ constraints, Passes repr arguments item.1 item.2 := by
  induction constraints with
  | nil => simp [validateConstraints]
  | cons item rest ih =>
    obtain ⟨field,spec⟩ := item
    rw [List.forall_mem_cons,← ih,← checkField_passes]
    cases checked : checkField repr field.text spec arguments with
    | none => simp [validateConstraints,checked]
    | some violations => cases violations <;> simp [validateConstraints,checked]

section Grants
variable (r : CapabilityRegistry) (now : Int) (agentId capability : String) (arguments : Option (List (Key × Value)))

def allowed : Bool :=
  match checkGrant repr r now agentId capability arguments with
  | some result => result.allowed
  | none => false

theorem allowed_iff : allowed repr r now agentId capability arguments = true ↔
    ∃ g, (r.grantsOf agentId).get capability = some g ∧ g.status = .active ∧ (∀ expiry, g.expiresAt = some expiry → now ≤ expiry) ∧
      ∀ item ∈ g.constraints.getD [], Passes repr (arguments.getD []) item.1 item.2 := by
  unfold allowed checkGrant
  cases found : (r.grantsOf agentId).get capability with
  | none => simp
  | some g =>
    by_cases active : g.status = .active
    · by_cases expired : g.expiresAt.any (fun expiry => decide (expiry < now)) = true
      · have late : ¬∀ expiry, g.expiresAt = some expiry → now ≤ expiry := by
          obtain ⟨expiry,held,past⟩ := (Option.any_eq_true ..).mp expired
          intro unexpired
          have := unexpired expiry held
          simp only [decide_eq_true_eq] at past
          omega
        simp [active,expired,late]
      · have live : ∀ expiry, g.expiresAt = some expiry → now ≤ expiry := by
          intro expiry held
          simpa [held] using expired
        have passes := validateConstraints_passes repr (g.constraints.getD []) (arguments.getD [])
        simp only [active,expired,ne_eq,not_true_eq_false,if_false,Option.some.injEq,exists_eq_left',true_and,← passes,and_iff_right live]
        cases validateConstraints repr (g.constraints.getD []) (arguments.getD []) with
        | none => simp
        | some violations => simp
    · simp [active]

-- A grant with one more constrained field, or with one more key in a spec of operators.
inductive Tightened : List (Key × Value) → List (Key × Value) → Prop where
  | field (before after : List (Key × Value)) (field : Key) (spec : Value) :
      Tightened (before ++ after) (before ++ (field,spec) :: after)
  | operator (before after : List (Key × Value)) (field : Key) (first last : List (Key × Value)) (op : Key) (expected : Value)
      (listed : operatorItems (.dict (first ++ last)) ≠ []) :
      Tightened (before ++ (field,.dict (first ++ last)) :: after) (before ++ (field,.dict (first ++ (op,expected) :: last)) :: after)

theorem tightened_passes {wide narrow args : List (Key × Value)} (tightened : Tightened wide narrow)
    (passes : ∀ item ∈ narrow, Passes repr args item.1 item.2) : ∀ item ∈ wide, Passes repr args item.1 item.2 := by
  cases tightened with
  | field before after field spec =>
    intro item member
    exact passes item (by rcases List.mem_append.mp member with left | right <;> simp [*])
  | operator before after field first last op expected listed =>
    intro item member
    rcases List.mem_append.mp member with left | right
    · exact passes item (by simp [left])
    · rcases List.mem_cons.mp right with rfl | later
      · obtain ⟨actual,found,present,_,satisfied⟩ := passes (field,.dict (first ++ (op,expected) :: last)) (by simp)
        refine ⟨actual,found,present,fun plain => absurd plain listed,?_⟩
        intro operator known
        refine satisfied operator ?_
        simp only [operatorItems,List.mem_filter] at known ⊢
        exact ⟨by rcases List.mem_append.mp known.1 with left | right <;> simp [*],known.2⟩
      · exact passes item (by simp [later])

def constrained (g : CapabilityGrant) (constraints : List (Key × Value)) : CapabilityGrant := {g with constraints := some constraints}

theorem check_grant_enforces (g : CapabilityGrant) (stored : (r.grantsOf agentId).get capability = some g) :
    (allowed repr r now agentId capability arguments = true →
      g.status = .active ∧ (∀ expiry, g.expiresAt = some expiry → now ≤ expiry) ∧
        ∀ item ∈ g.constraints.getD [], Fits (arguments.getD []) item.1 item.2) ∧
    ∀ narrow, Tightened (g.constraints.getD []) narrow → allowed repr r now agentId capability arguments = false →
      allowed repr (r.put agentId (constrained g narrow)) now agentId capability arguments = false := by
  constructor
  · intro passed
    obtain ⟨_,found,active,unexpired,passes⟩ := (allowed_iff repr r now agentId capability arguments).mp passed
    rw [stored] at found
    cases found
    refine ⟨active,unexpired,fun item member => ?_⟩
    obtain ⟨actual,given,present,plain,checked⟩ := passes item member
    exact ⟨actual,given,present,plain,fun operator listed => checkOperator_satisfies repr (checked operator listed)⟩
  · intro narrow tightened denied
    by_contra passed
    obtain ⟨_,found,active,unexpired,passes⟩ := (allowed_iff repr _ now agentId capability arguments).mp (by simpa using passed)
    have named : (constrained g narrow).capability = capability := r.keyed agentId capability g stored
    rw [grantsOf_put,Dict.get_set,if_pos named] at found
    cases found
    have wide := (allowed_iff repr r now agentId capability arguments).mpr
      ⟨g,stored,active,unexpired,tightened_passes repr tightened passes⟩
    exact absurd (wide.symm.trans denied) (by decide)
end Grants

def payGrant (constraints : List (Key × Value)) : CapabilityGrant where
  capability := "pay"
  status := .active
  constraints := some constraints

def payRegistry (constraints : List (Key × Value)) : CapabilityRegistry :=
  CapabilityRegistry.put ⟨.empty,.empty,Capabilities.ungranted_keyed⟩ "a1" (payGrant constraints)

def paying (constraints : List (Key × Value)) (argument : Value) : Bool :=
  allowed (fun _ => "") (payRegistry constraints) 0 "a1" "pay" (some [(.str "amount",argument)])

def operatorSpec (items : List (Key × Value)) : List (Key × Value) := [(.str "amount",.dict items)]

-- An operator added to an object without one, a NaN under a maximum, a part of a text.
theorem check_grant_loose :
    (paying (operatorSpec [(.str "unknown_op",.int 5)]) (.int 5) = false ∧
      paying (operatorSpec [(.str "unknown_op",.int 5),(.str "max",.int 10)]) (.int 5) = true) ∧
    (paying (operatorSpec [(.str "max",.int 10)]) (.nonFinite "NaN") = true ∧
      number (.nonFinite "NaN") = some .nan ∧ ∀ bound, ¬atMost .nan bound) ∧
    paying (operatorSpec [(.str "in",.str "read-only")]) (.str "read") = true :=
  ⟨⟨by decide +kernel,by decide +kernel⟩,⟨by decide +kernel,by decide +kernel,by simp [atMost]⟩,by decide +kernel⟩

theorem check_grant_enforces_payment :
    (∀ item ∈ operatorSpec [(.str "max",.int 10)], Fits [(.str "amount",.int 5)] item.1 item.2) ∧
      paying (operatorSpec [(.str "max",.int 10),(.str "min",.int 1)]) (.int 11) = false := by
  have stored : ((payRegistry (operatorSpec [(.str "max",.int 10)])).grantsOf "a1").get "pay" =
      some (payGrant (operatorSpec [(.str "max",.int 10)])) := rfl
  have enforced (argument : Value) := check_grant_enforces (fun _ => "") (payRegistry (operatorSpec [(.str "max",.int 10)])) 0 "a1" "pay"
    (some [(.str "amount",argument)]) (payGrant (operatorSpec [(.str "max",.int 10)])) stored
  refine ⟨((enforced (.int 5)).1 (by decide +kernel)).2.2,?_⟩
  refine (enforced (.int 11)).2 (operatorSpec [(.str "max",.int 10),(.str "min",.int 1)]) ?_ (by decide +kernel)
  exact .operator [] [] (.str "amount") [(.str "max",.int 10)] [] (.str "min") (.int 1) (by decide +kernel)

end Asap.Constraints
