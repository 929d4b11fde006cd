import Proviso.Function.Builtin
import Proviso.Proofs.Function.Registry

/-!
No function of this library finds fault with the kind of an argument when it is called properly:
whatever it asks for at a place is what its signature takes there. No two of them have one name and
the same parameters, so that this library is a registry, as is whatever comes of registering more.
-/

namespace Proviso

namespace Function

/-- Whether an outcome is anything but a complaint about the kind of an argument. -/
def Accepts {α : Type} (outcome : Except FunctionFault α) : Prop :=
  ∀ name index expected actual, outcome ≠ .error (.argument name index expected actual)

def IsGuarded (function : Function) : Prop :=
  ∀ arguments, (Call.mk function arguments).Conforms → ∀ moment name index expected actual,
    function.body moment arguments ≠
      .error (.evaluation (.function (.argument name index expected actual)))

def Given (arguments : List Value) (index : Nat) (type : Ty) : Prop :=
  ∃ argument, arguments[index]? = some argument ∧ type.Takes argument

/-! ## Outcomes -/

variable {α β : Type}

theorem accepts_ok (value : α) : Accepts (.ok value) :=
  nofun

theorem Accepts.bind {first : Except FunctionFault α} {second : α → Except FunctionFault β}
    (firstAccepts : Accepts first) (secondAccepts : ∀ value, Accepts (second value)) :
    Accepts (first >>= second) := by
  intro name index expected actual
  cases first with
  | ok value => exact secondAccepts value name index expected actual
  | error fault =>
    intro equal
    exact firstAccepts name index expected actual (congrArg Except.error (Except.error.inj equal))

/-! ## Arguments -/

variable {arguments : List Value} {index : Nat}

theorem accepts_string (name : String) (given : Given arguments index .string) :
    Accepts (Argument.string name arguments index) := by
  rcases given with ⟨argument, present, takes⟩
  have isText : (∃ text, argument = .string text) ∨ argument = .null := by
    rcases takes with admitted | ⟨isNull, _⟩
    · cases argument with
      | object record => cases admitted
      | scalar value => cases value <;> first | exact .inl ⟨_, rfl⟩ | cases admitted
    · exact .inr isNull
  rw [Argument.string, present]
  rcases isText with ⟨text, rfl⟩ | rfl
  · exact accepts_ok _
  · exact accepts_ok _

theorem accepts_int (name : String) (given : Given arguments index .int) :
    Accepts (Argument.int name arguments index) := by
  rcases given with ⟨argument, present, admitted | ⟨_, notString⟩⟩
  · rcases Ty.admits_int_iff.mp admitted with ⟨number, rfl⟩
    rw [Argument.int, present]
    exact accepts_ok _
  · cases notString

theorem accepts_number (name : String) (given : Given arguments index .float) :
    Accepts (Argument.number name arguments index) := by
  rcases given with ⟨argument, present, admitted | ⟨_, notString⟩⟩
  · have isFloat : ∃ number, argument = .float number := by
      cases argument with
      | object record => cases admitted
      | scalar value => cases value <;> first | exact ⟨_, rfl⟩ | cases admitted
    rcases isFloat with ⟨number, rfl⟩
    rw [Argument.number, present]
    exact accepts_ok _
  · cases notString

/-! ## Calls -/

variable {name : String} {parameters : List Ty} {returns type : Ty} {body : FunctionBody}

theorem given_of_conforms (conforms : (Call.mk (.ofBody name parameters returns body)
    arguments).Conforms) (parameter : parameters[index]? = some type) :
    Given arguments index type := by
  have inside : index < arguments.length :=
    Nat.lt_of_lt_of_le (List.getElem?_eq_some_iff.mp parameter).1 conforms.enough
  have present := List.getElem?_eq_getElem inside
  rcases conforms.takes index _ present with ⟨other, found, takes⟩
  have same : other = type := by
    rw [ofBody, Signature.fixed, Signature.parameterAt?, parameter] at found
    exact (Option.some.inj found).symm
  exact ⟨_, present, same ▸ takes⟩

theorem isGuarded_ofBody
    (accepts : ∀ arguments, arguments.length = parameters.length →
      (∀ index type, parameters[index]? = some type → Given arguments index type) →
        Accepts (body arguments)) :
    (ofBody name parameters returns body).IsGuarded := by
  intro arguments conforms moment complained index expected actual fails
  have accepted := accepts arguments (conforms.exact rfl)
    (fun index type => given_of_conforms conforms)
  have fails : (body arguments).mapError (fun cause => Fault.evaluation (.function cause)) =
      .error (.evaluation (.function (.argument complained index expected actual))) := fails
  cases outcome : body arguments with
  | ok value =>
    rw [outcome] at fails
    cases fails
  | error cause =>
    rw [outcome] at fails
    injection fails with fails
    injection fails with fails
    injection fails with fails
    exact accepted complained index expected actual (fails ▸ outcome)

end Function

namespace Builtin

open Proviso.Function Calendar

variable {arguments : List Value}

/-! ## Texts -/

theorem isGuarded_length : length.IsGuarded :=
  isGuarded_ofBody fun _ _ given =>
    (accepts_string _ (given 0 _ rfl)).bind fun _ => accepts_ok _

theorem isGuarded_trim : trim.IsGuarded := by
  refine isGuarded_ofBody fun _ _ given => (accepts_string _ (given 0 _ rfl)).bind fun text => ?_
  cases text <;> exact accepts_ok _

theorem accepts_concatFrom {count index : Nat}
    (given : ∀ place < index + count, Given arguments place .string) :
    Accepts (concatFrom arguments count index) := by
  induction count generalizing index with
  | zero => exact accepts_ok _
  | succ count induction =>
    have here : Given arguments index .string := given index (by omega)
    have later : Accepts (concatFrom arguments count (index + 1)) :=
      induction fun place inside => given place (by omega)
    exact (accepts_string _ here).bind fun _ => later.bind fun _ => accepts_ok _

theorem isGuarded_ofBody_concatOf (count : Nat) :
    (ofBody "Concat" (List.replicate count .string) .string concatOf).IsGuarded := by
  refine isGuarded_ofBody fun arguments length given => ?_
  have texts : Accepts (concatFrom arguments arguments.length 0) := by
    refine accepts_concatFrom fun place inside => given place .string ?_
    rw [Nat.zero_add, length, List.length_replicate] at inside
    exact List.getElem?_replicate_of_lt inside
  exact texts.bind fun _ => accepts_ok _

theorem isGuarded_compare (name : String) (caseSensitive : Bool) :
    (ofBody name [.string, .string] .int (compareOf name caseSensitive)).IsGuarded :=
  isGuarded_ofBody fun _ _ given =>
    (accepts_string _ (given 0 _ rfl)).bind fun _ =>
      (accepts_string _ (given 1 _ rfl)).bind fun _ => accepts_ok _

theorem isGuarded_testFunction (name : String) (caseSensitive : Bool)
    (test : List Char → List Char → Bool) :
    (testFunction name caseSensitive test).IsGuarded := by
  refine isGuarded_ofBody fun _ _ given => (accepts_string _ (given 0 _ rfl)).bind fun first =>
    (accepts_string _ (given 1 _ rfl)).bind fun second => ?_
  cases first <;> cases second <;> exact accepts_ok _

theorem accepts_substringOf (text : Given arguments 0 .string) (start : Given arguments 1 .int)
    (count : 2 < arguments.length → Given arguments 2 .int) : Accepts (substringOf arguments) := by
  refine (accepts_string _ text).bind fun text => ?_
  cases text with
  | none => exact accepts_ok _
  | some text =>
    refine (accepts_int _ start).bind fun start => ?_
    dsimp only
    split
    case isTrue => exact nofun
    case isFalse =>
      split
      case isFalse => exact accepts_ok _
      case isTrue counted =>
        refine (accepts_int _ (count counted)).bind fun count => ?_
        split
        case isTrue => exact nofun
        case isFalse => exact accepts_ok _

theorem isGuarded_substring : substring.IsGuarded :=
  isGuarded_ofBody fun _ length given =>
    accepts_substringOf (given 0 _ rfl) (given 1 _ rfl) fun counted =>
      absurd counted (length ▸ Nat.lt_irrefl 2)

theorem isGuarded_substringOfLength : substringOfLength.IsGuarded :=
  isGuarded_ofBody fun _ _ given =>
    accepts_substringOf (given 0 _ rfl) (given 1 _ rfl) fun _ => given 2 _ rfl

theorem isGuarded_isNullOrWhiteSpace : isNullOrWhiteSpace.IsGuarded :=
  isGuarded_ofBody fun _ _ given =>
    (accepts_string _ (given 0 _ rfl)).bind fun _ => accepts_ok _

theorem isGuarded_of_mem_textFunctions {function : Function}
    (member : function ∈ textFunctions) : function.IsGuarded := by
  revert function
  simp only [textFunctions, List.forall_mem_cons]
  exact ⟨isGuarded_length, isGuarded_trim, isGuarded_ofBody_concatOf 2,
    isGuarded_ofBody_concatOf 3, isGuarded_compare _ _, isGuarded_compare _ _,
    isGuarded_testFunction _ _ _, isGuarded_testFunction _ _ _, isGuarded_testFunction _ _ _,
    isGuarded_testFunction _ _ _, isGuarded_testFunction _ _ _, isGuarded_testFunction _ _ _,
    isGuarded_substring, isGuarded_substringOfLength, isGuarded_isNullOrWhiteSpace, nofun⟩

/-! ## Kinds of texts -/

theorem isGuarded_classifier (name : String) (automaton : Automaton) :
    (classifier name automaton).IsGuarded := by
  refine isGuarded_ofBody fun _ _ given => (accepts_string _ (given 0 _ rfl)).bind fun text => ?_
  cases text <;> exact accepts_ok _

theorem accepts_callerPattern (text : String) : Accepts (callerPattern text) := by
  unfold callerPattern
  split
  case isTrue => exact nofun
  case isFalse =>
    split
    case h_1 => exact accepts_ok _
    case h_2 => exact nofun

theorem isGuarded_isRegexMatch : isRegexMatch.IsGuarded := by
  refine isGuarded_ofBody fun _ _ given => (accepts_string _ (given 0 _ rfl)).bind fun text =>
    (accepts_string _ (given 1 _ rfl)).bind fun pattern => ?_
  split
  case h_1 => exact (accepts_callerPattern _).bind fun _ => accepts_ok _
  case h_2 => exact accepts_ok _

theorem isGuarded_of_mem_classifiers {function : Function} (member : function ∈ classifiers) :
    function.IsGuarded := by
  revert function
  simp only [classifiers, List.forall_mem_cons]
  exact ⟨isGuarded_classifier _ _, isGuarded_classifier _ _, isGuarded_classifier _ _,
    isGuarded_classifier _ _, isGuarded_classifier _ _, isGuarded_isRegexMatch, nofun⟩

/-! ## Dates -/

theorem isGuarded_now : now.IsGuarded := by
  intro arguments _ moment name index expected actual fails
  cases fails

theorem isGuarded_today : today.IsGuarded := by
  intro arguments _ moment name index expected actual fails
  cases fails

theorem accepts_datePart {index : Nat} (given : Given arguments index .int) :
    Accepts (datePart arguments index) := by
  refine (accepts_int _ given).bind fun value => ?_
  split
  case isTrue => exact accepts_ok _
  case isFalse => exact nofun

theorem accepts_dateOf (day : ∀ index < 3, Given arguments index .int)
    (time : arguments.length = 6 → ∀ index < 6, Given arguments index .int) :
    Accepts (dateOf arguments) := by
  refine (accepts_int _ (day 0 (by decide))).bind fun year => ?_
  split
  case isTrue => rintro _ _ _ _ ⟨⟩
  case isFalse =>
    refine (accepts_datePart (day 1 (by decide))).bind fun month => ?_
    refine (accepts_datePart (day 2 (by decide))).bind fun day => ?_
    dsimp only
    split
    case isFalse =>
      refine (accepts_ok _).bind fun noTime => ?_
      split
      case h_1 => exact accepts_ok _
      case h_2 => rintro _ _ _ _ ⟨⟩
    case isTrue timed =>
      refine (accepts_datePart (time timed 3 (by decide))).bind fun hour => ?_
      refine (accepts_datePart (time timed 4 (by decide))).bind fun minute => ?_
      refine (accepts_datePart (time timed 5 (by decide))).bind fun second => ?_
      refine (accepts_ok _).bind fun time => ?_
      split
      case h_1 => exact accepts_ok _
      case h_2 => rintro _ _ _ _ ⟨⟩

theorem isGuarded_date : date.IsGuarded :=
  isGuarded_ofBody fun _ length given =>
    accepts_dateOf (fun index inside => given index _ (List.getElem?_replicate_of_lt inside))
      fun timed => absurd (length.symm.trans timed) (by decide)

theorem isGuarded_dateAndTime : dateAndTime.IsGuarded := by
  refine isGuarded_ofBody fun _ length given => ?_
  have parts (index : Nat) (inside : index < 6) : Given _ index .int :=
    given index _ (List.getElem?_replicate_of_lt inside)
  exact accepts_dateOf (fun index inside => parts index (by omega)) fun _ => parts

theorem isGuarded_toDate : toDate.IsGuarded := by
  refine isGuarded_ofBody fun _ _ given => (accepts_string _ (given 0 _ rfl)).bind fun text => ?_
  split
  case h_1 => exact accepts_ok _
  case h_2 => exact accepts_ok _

theorem accepts_durationPart {index : Nat} (given : Given arguments index .int) (seconds : Nat) :
    Accepts (durationPart arguments index seconds) := by
  refine (accepts_int _ given).bind fun value => ?_
  split
  case h_1 => exact accepts_ok _
  case h_2 => exact nofun

theorem isGuarded_timeSpan : timeSpan.IsGuarded := by
  refine isGuarded_ofBody fun _ _ given => ?_
  refine (accepts_durationPart (given 0 _ rfl) _).bind fun days => ?_
  refine (accepts_durationPart (given 1 _ rfl) _).bind fun hours => ?_
  refine (accepts_durationPart (given 2 _ rfl) _).bind fun minutes => ?_
  refine (accepts_durationPart (given 3 _ rfl) _).bind fun seconds => ?_
  split
  case h_1 => exact accepts_ok _
  case h_2 => exact nofun

theorem isGuarded_of_mem_dateFunctions {function : Function}
    (member : function ∈ dateFunctions) : function.IsGuarded := by
  revert function
  simp only [dateFunctions, List.forall_mem_cons]
  exact ⟨isGuarded_now, isGuarded_today, isGuarded_date, isGuarded_dateAndTime, isGuarded_toDate,
    isGuarded_timeSpan, nofun⟩

/-! ## Numbers -/

theorem accepts_foldFrom {name : String} {step : Float → Float → Float} {count index : Nat}
    (given : ∀ place < index + count, Given arguments place .float) (result : Float) :
    Accepts (foldFrom name step arguments count index result) := by
  induction count generalizing index result with
  | zero => exact accepts_ok _
  | succ count induction =>
    have here : Given arguments index .float := given index (by omega)
    refine (accepts_number _ here).bind fun number => ?_
    exact induction (fun place inside => given place (by omega)) _

theorem isGuarded_aggregate (name : String) (step : Float → Float → Float)
    (finish : Float → Nat → Float) : (aggregate name step finish).IsGuarded := by
  intro arguments conforms moment complained index expected actual fails
  have given (place : Nat) (inside : place < arguments.length) : Given arguments place .float := by
    have present := List.getElem?_eq_getElem inside
    rcases conforms.takes place _ present with ⟨parameter, found, takes⟩
    have isFloat : parameter = .float := by
      cases place <;> exact (Option.some.inj found).symm
    exact ⟨_, present, isFloat ▸ takes⟩
  have nonempty : 0 < arguments.length := conforms.enough
  have accepted : Accepts (foldOf name step arguments) :=
    (accepts_number _ (given 0 nonempty)).bind fun first =>
      accepts_foldFrom (fun place inside => given place (by omega)) _
  cases outcome : foldOf name step arguments with
  | ok result => simp [aggregate, outcome] at fails
  | error cause =>
    simp only [aggregate, outcome, Except.error.injEq, Fault.evaluation.injEq,
      EvaluationFault.function.injEq] at fails
    exact accepted complained index expected actual (fails ▸ outcome)

/-! ## All functions -/

theorem isGuarded_guid : guid.IsGuarded := by
  refine isGuarded_ofBody fun _ _ given => (accepts_string _ (given 0 _ rfl)).bind fun text => ?_
  split
  case h_1 => exact accepts_ok _
  case h_2 =>
    split
    case h_1 => exact accepts_ok _
    case h_2 => exact nofun

/-- Functions of this library do not complain about the kind of an argument in a proper call. -/
theorem isGuarded_of_mem_standard {function : Function}
    (member : function ∈ Library.standard.functions) : function.IsGuarded := by
  simp only [Library.standard, List.mem_append, List.mem_singleton] at member
  rcases member with (((isDate | isText) | isClassifier) | isNumber) | rfl
  · exact isGuarded_of_mem_dateFunctions isDate
  · exact isGuarded_of_mem_textFunctions isText
  · exact isGuarded_of_mem_classifiers isClassifier
  · simp only [numberFunctions, List.mem_cons, List.not_mem_nil, or_false] at isNumber
    rcases isNumber with rfl | rfl | rfl | rfl <;> exact isGuarded_aggregate _ _ _
  · exact isGuarded_guid

end Builtin

/-! ## The library as a registry -/

namespace Library

theorem hasNoTwins_standard : standard.HasNoTwins := by
  have differ : standard.functions.Pairwise fun first second =>
      first.name = second.name → first.signature.sameParameters second.signature = false := by
    decide +kernel
  refine differ.imp ?_
  intro first second apart sameName same
  rw [← Signature.sameParameters_iff, apart sameName] at same
  cases same

/-- Whatever is registered in the empty library or in this one, and whatever is refused on the way,
the library is a registry, and the functions of a name are never more than added to at the end. -/
theorem isRegistry_afterAttempts {start : Library} (begins : start = .empty ∨ start = .standard)
    (functions later : List Function) :
    (start.afterAttempts functions).IsRegistry ∧ ∀ name,
      (start.afterAttempts functions).overloads name <+:
        (start.afterAttempts (functions ++ later)).overloads name := by
  have noTwins : start.HasNoTwins := by
    rcases begins with rfl | rfl
    · exact hasNoTwins_empty
    · exact hasNoTwins_standard
  constructor
  · exact (noTwins.afterAttempts functions).isRegistry
  · intro name
    have split : start.afterAttempts (functions ++ later) =
        (start.afterAttempts functions).afterAttempts later := List.foldl_append
    rw [split]
    exact overloads_prefix_afterAttempts _ _ _

/-- The length of a number, and another length of a text, which is refused. -/
def furtherLengths : List Function :=
  [.ofBody "Length" [.int] .int fun _ => .ok (.int 1),
    .ofBody "Length" [.string] .int fun _ => .ok (.int 0)]

theorem isRegistry_furtherLengths :
    (standard.afterAttempts furtherLengths).IsRegistry ∧
      ((standard.afterAttempts furtherLengths).overloads "Length").length = 2 ∧
      ∀ name, (standard.afterAttempts furtherLengths).overloads name <+:
        (standard.afterAttempts (furtherLengths ++ furtherLengths)).overloads name := by
  have counted : ((standard.afterAttempts furtherLengths).overloads "Length").length = 2 := by
    decide +kernel
  rcases isRegistry_afterAttempts (.inr rfl) furtherLengths furtherLengths with ⟨registry, grows⟩
  exact ⟨registry, counted, grows⟩

end Library

end Proviso
