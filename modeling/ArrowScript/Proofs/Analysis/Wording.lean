import ArrowScript.Proofs.Analysis.Respelling

/-!
# Names in messages

A message is made of words and names (`Fragment`). The name of a type may be one of the program, and an array type is
named after its elements. Spelling a problem differently replaces the names in its message and keeps the words
(`SemanticProblem.message_respell`).
-/

namespace ArrowScript

/-- A part of a message. -/
inductive Fragment
  /-- Words that do not come from the program. -/
  | words (text : String)
  /-- A name of the program. -/
  | name (text : String)

namespace Fragment

/-- The text of a part of a message. -/
def text : Fragment → String
  | words text => text
  | name text => text

/-- A part of a message in which names are spelled differently. -/
def respell (spell : String → String) : Fragment → Fragment
  | words text => words text
  | name text => name (spell text)

/-- Parts of a message, one after the other. -/
def render (fragments : List Fragment) : String :=
  String.join (fragments.map text)

/-- No parts have no text. -/
lemma render_nil : render [] = "" := rfl

/-- Parts of a message read one after the other. -/
lemma render_append (first second : List Fragment) : render (first ++ second) = render first ++ render second := by
  rw [render, List.map_append, String.join_append]
  rfl

/-- A part of a message in front of others. -/
lemma render_cons (fragment : Fragment) (rest : List Fragment) :
    render (fragment :: rest) = fragment.text ++ render rest := by
  rw [render, List.map_cons, String.join_cons]
  rfl

/-- Nothing is spelled differently if all texts stay. -/
lemma map_respell_id (fragments : List Fragment) : fragments.map (respell id) = fragments :=
  List.map_id'' (fun fragment => by cases fragment <;> rfl) fragments

end Fragment

variable {spell : String → String}

/-! ## Names of types -/

/-- The name of a type in parts, given those of the types registered before it. -/
def TypeInfo.label (labels : Array (List Fragment)) : TypeInfo → List Fragment
  | ⟨name, .builtin⟩ => [.words name]
  | ⟨name, .user _⟩ | ⟨name, .parameter⟩ => [.name name]
  | ⟨_, .array element⟩ => (labels[element.index]?).getD [.words "?"] ++ [.words "[]"]

namespace TypeRegistry

/-- The names of all types in parts. -/
def labels (registry : TypeRegistry) : Array (List Fragment) :=
  registry.entries.foldl (fun labels info => labels.push (info.label labels)) #[]

/-- The name of a type in parts, a question mark when the handle is not known. -/
def label (registry : TypeRegistry) (type : TypeId) : List Fragment :=
  (registry.labels[type.index]?).getD [.words "?"]

/-- A type that is registered last has the last name. -/
lemma labels_register (registry : TypeRegistry) (info : TypeInfo) :
    (registry.register info).2.labels = registry.labels.push (info.label registry.labels) := by
  unfold labels
  show (registry.entries.push info).foldl _ _ = _
  rw [Array.foldl_push]

/-- Every type has a name. -/
lemma size_labels (registry : TypeRegistry) : registry.labels.size = registry.size := by
  induction registry using registering with
  | empty => rfl
  | register registry info ih => rw [labels_register, Array.size_push, ih, size_register]

/-- The name of the type that is registered last is made from the names before it. -/
lemma label_register (registry : TypeRegistry) (info : TypeInfo) (type : TypeId) :
    (registry.register info).2.label type =
      if type = (registry.register info).1 then info.label registry.labels else registry.label type := by
  obtain ⟨index⟩ := type
  unfold label
  rw [labels_register, Array.getElem?_push, size_labels]
  show (if index = registry.size then _ else _ : Option _).getD _ = if TypeId.mk index = ⟨registry.size⟩ then _ else _
  by_cases last : index = registry.size
  · rw [if_pos last, if_pos (congrArg _ last)]
    rfl
  · rw [if_neg last, if_neg fun same => last (TypeId.mk.inj same)]

/-- What is registered for a type, spelled differently, has the changed name. -/
lemma name_info_respell {registry : TypeRegistry} (before : ∀ type : TypeId,
    (registry.respell spell).name type = Fragment.render ((registry.label type).map (Fragment.respell spell)))
    (info : TypeInfo) : (info.respell spell (registry.respell spell)).name =
      Fragment.render ((info.label registry.labels).map (Fragment.respell spell)) := by
  obtain ⟨name, kind⟩ := info
  cases kind with
  | array element =>
    show (registry.respell spell).name element ++ "[]" =
      Fragment.render ((registry.label element ++ [Fragment.words "[]"]).map _)
    rw [List.map_append, Fragment.render_append, before]
    rfl
  | builtin | user | parameter =>
    simp only [TypeInfo.respell, TypeInfo.label, List.map_cons, List.map_nil, Fragment.render_cons,
      Fragment.render_nil, Fragment.respell, Fragment.text, String.append_empty]

/-- The name of a type, spelled differently, has the same words and the changed names. -/
lemma name_respell (registry : TypeRegistry) : ∀ type : TypeId,
    (registry.respell spell).name type = Fragment.render ((registry.label type).map (Fragment.respell spell)) := by
  induction registry using registering with
  | empty => exact fun _ => rfl
  | register registry info ih =>
    intro type
    unfold name
    rw [respell_register, info?_register, label_register]
    have handle : ((registry.respell spell).register (info.respell spell (registry.respell spell))).1 =
        (registry.register info).1 := congrArg TypeId.mk registry.size_respell
    rw [handle]
    split
    · exact name_info_respell ih info
    · exact ih type

end TypeRegistry

/-! ## Problems -/

/-- A name stands where it stood. -/
lemma Span.locus_respell (name : Span) : (name.respell spell).locus = name.locus := rfl

namespace Analysis.SemanticProblem

/-- The message of a problem in parts. -/
def wording (types : TypeRegistry) : SemanticProblem → List Fragment
  | alreadyDefined what name first =>
    [.words "The ", .words what.word, .words " ", .name name, .words " is already defined at ", .words first.locus,
      .words "."]
  | typeInFunction => [.words "Types cannot be declared inside functions."]
  | functionInFunction => [.words "Functions cannot be declared inside functions."]
  | unknownType name => [.words "Cannot find type ", .name name, .words "."]
  | missing what name => [.words "Missing ", .words what.word, .words " ", .name name, .words "."]
  | missingMember what name owner =>
    [.words "Missing ", .words what.word, .words " ", .name name, .words " on type "] ++ types.label owner ++
      [.words "."]
  | operandsDiffer left right =>
    [.words "Type mismatch in expression: "] ++ types.label left ++ [.words " <-> "] ++ types.label right ++
      [.words "."]
  | initialDiffers expected found =>
    [.words "Type mismatch in variable declaration: expected "] ++ types.label expected ++ [.words " but found "] ++
      types.label found ++ [.words "."]
  | returnDiffers expected found =>
    [.words "Return type mismatch: expected "] ++ types.label expected ++ [.words " but found "] ++
      types.label found ++ [.words "."]
  | indexNotInt found => [.words "Index must be int but found "] ++ types.label found ++ [.words "."]
  | argumentCount function expected found =>
    [.words "Function ", .name function, .words " expects ", .words (toString expected),
      .words " argument(s) but got ", .words (toString found), .words "."]
  | argumentDiffers position function expected found =>
    [.words "Argument ", .words (toString position), .words " of ", .name function, .words " expects "] ++
      types.label expected ++ [.words " but found "] ++ types.label found ++ [.words "."]
  | assignsToCall => [.words "Cannot assign to the result of a function call."]

/-- A problem that is spelled differently has a message with the same words and the changed names. -/
lemma message_respell (types : TypeRegistry) (problem : SemanticProblem) :
    (problem.respell spell).message (types.respell spell) =
      Fragment.render ((problem.wording types).map (Fragment.respell spell)) := by
  cases problem <;> unfold respell message wording <;>
    simp only [List.map_append, List.map_cons, List.map_nil, Fragment.render_append, Fragment.render_cons,
      Fragment.render_nil, Fragment.respell, Fragment.text, TypeRegistry.name_respell, toString, String.append_assoc,
      String.append_empty, Span.locus_respell]

/-- The message of a problem has the parts that are told, as long as array types are named after their elements. -/
lemma message_eq_render {types : TypeRegistry} (arrays : types.respell id = types) (problem : SemanticProblem) :
    problem.message types = Fragment.render (problem.wording types) := by
  have same : (problem.respell id).message types = problem.message types := by
    cases problem <;> rfl
  have parts : (problem.respell id).message (types.respell id) = _ := problem.message_respell types
  rwa [arrays, Fragment.map_respell_id, same] at parts

end Analysis.SemanticProblem

end ArrowScript
