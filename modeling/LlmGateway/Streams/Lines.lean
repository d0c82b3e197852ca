import LlmGateway.Streams.Framing
import LlmGateway.Streams.Reading

/-!
# The gateway reads its own events

The payload of an event is the text of an object between braces, so it is found again on its line
(`payload_eventLine`). An interpreter decodes it where the object keeps its limits
(`lineChunk_eventLine`). A chunk of the gateway keeps them: it is four levels deep
(`takes_chunkObject`).
-/

set_option autoImplicit false

namespace LlmGateway

open LlmGateway.Library
open LlmGateway.Library.PythonText

/-! ## Blanks around a text -/

/-- A text whose first and last characters are no blanks. -/
theorem strip_edges {first last : Char} (text : List Char) (begins : isSpace first = false)
    (ends : isSpace last = false) : strip (first :: text ++ [last]) = first :: text ++ [last] := by
  unfold strip trim
  have start : (first :: text ++ [last]).dropWhile isSpace = first :: text ++ [last] := by
    simp [begins]
  rw [start, List.reverse_append, List.reverse_singleton, List.singleton_append,
    List.dropWhile_cons_of_neg (by simp [ends])]
  simp

/-- Trailing line breaks are stripped. -/
theorem strip_event {first last : Char} (text : List Char) (begins : isSpace first = false)
    (ends : isSpace last = false) :
    strip (first :: text ++ [last] ++ ['\n', '\n']) = first :: text ++ [last] := by
  have breaks : isSpace '\n' = true := by decide
  unfold strip trim
  have start : (first :: text ++ [last] ++ ['\n', '\n']).dropWhile isSpace =
      first :: text ++ [last] ++ ['\n', '\n'] := by
    simp [begins]
  have reversed : (first :: text ++ [last] ++ ['\n', '\n']).reverse =
      '\n' :: '\n' :: last :: (first :: text).reverse := by
    simp
  rw [start, reversed, List.dropWhile_cons_of_pos breaks, List.dropWhile_cons_of_pos breaks,
    List.dropWhile_cons_of_neg (by simp [ends])]
  simp

theorem printMembers_closes (style : Json.Style) (members : List (String × Json)) :
    ∃ front, Json.printMembers style members = front ++ ['}'] := by
  induction members with
  | nil => exact ⟨[], rfl⟩
  | cons member rest ih =>
      obtain ⟨name, value⟩ := member
      obtain ⟨front, same⟩ := ih
      refine ⟨',' :: (style.afterComma ++ Json.printString name ++
        ':' :: (style.afterColon ++ Json.print style value) ++ front), ?_⟩
      simp [Json.printMembers, same]

/-- The text of an object stands between braces. -/
theorem print_obj_braces (style : Json.Style) (members : List (String × Json)) :
    ∃ front, Json.print style (.obj members) = '{' :: front ++ ['}'] := by
  cases members with
  | nil => exact ⟨[], rfl⟩
  | cons member rest =>
      obtain ⟨name, value⟩ := member
      obtain ⟨front, same⟩ := printMembers_closes style rest
      refine ⟨Json.printString name ++ ':' :: (style.afterColon ++ Json.print style value) ++ front, ?_⟩
      simp [Json.print, same]

/-! ## The line of an object -/

/-- **The payload of an event** is found on its line. -/
theorem payload_eventLine (members : List (String × Json)) :
    payload (eventLine (Json.dumps .spaced (.obj members))) = some (Json.print .spaced (.obj members)) := by
  obtain ⟨front, printed⟩ := print_obj_braces .spaced members
  have line : (eventLine (Json.dumps .spaced (.obj members))).toList =
      'd' :: (['a', 't', 'a', ':', ' ', '{'] ++ front) ++ ['}'] ++ ['\n', '\n'] := by
    rw [eventLine_toList, Json.dumps, String.toList_ofList, printed]
    simp [EventStream.event, EventStream.mark]
  have stripped := strip_event (['a', 't', 'a', ':', ' ', '{'] ++ front)
    (show isSpace 'd' = false by decide) (show isSpace '}' = false by decide)
  have inner := strip_edges front (show isSpace '{' = false by decide)
    (show isSpace '}' = false by decide)
  simp only [payload, line, stripped]
  have marked : dataMark.isPrefixOf ('d' :: (['a', 't', 'a', ':', ' ', '{'] ++ front) ++ ['}']) =
      true := by
    simp [dataMark, List.isPrefixOf]
  have rest : ('d' :: (['a', 't', 'a', ':', ' ', '{'] ++ front) ++ ['}']).drop 6 =
      '{' :: front ++ ['}'] := rfl
  rw [if_pos marked, rest, inner, printed]
  simp [doneMark]

/-- **The event of an object** is decoded by an interpreter that takes the object. -/
theorem lineChunk_eventLine {python : Interpreter} {members : List (String × Json)}
    (keyed : (Json.obj members).Keyed) (takes : python.Takes (.obj members)) :
    lineChunk python (eventLine (Json.dumps .spaced (.obj members))) = .ok (some (.obj members)) := by
  have loaded : python.loads (Json.dumps .spaced (.obj members)) = .ok (.obj members) :=
    Interpreter.loads_dumps .spaced keyed takes
  rw [lineChunk, payload_eventLine]
  change tryLoads python (Json.dumps .spaced (.obj members)) = _
  rw [tryLoads, loaded]

/-! ## Chunks -/

/-- An object of members that are taken at any depth. -/
def Shallow (value : Json) : Prop :=
  ∃ members, value = .obj members ∧ ∀ member ∈ members, member.2.Flat

theorem flat_stated {name : String} {value : Json} (flat : value.Flat) :
    ∀ member ∈ stated name value, member.2.Flat := by
  intro member there
  have same : member = (name, value) := by
    cases value with
    | null => exact absurd there List.not_mem_nil
    | _ => exact List.mem_singleton.mp there
  rw [same]
  exact flat

/-- **A chunk of the gateway keeps the limits**, if its texts and counts do. -/
theorem takes_chunkObject {python : Interpreter} {created : ℤ}
    {chunkId model role content finishReason : Json} {usage : Option Json} (short : Short created)
    (identified : chunkId.Flat) (named : model.Flat) (roled : role.Flat) (filled : content.Flat)
    (ended : finishReason.Flat) (counted : ∀ counts, usage = some counts → Shallow counts) :
    python.Takes (chunkObject created chunkId model role content finishReason usage) := by
  obtain ⟨room, deep⟩ := python.eight_levels
  have delta : ∀ levels, (Json.obj (stated "role" role ++ stated "content" content)).Fits
      (some maxStrDigits) (some (levels + 1)) := fun levels =>
    Json.fits_obj.mpr (List.forall_mem_append.mpr
      ⟨fun member there => flat_stated roled member there _,
        fun member there => flat_stated filled member there _⟩)
  have choice : ∀ levels, (Json.arr [.obj [("index", .int 0),
      ("delta", .obj (stated "role" role ++ stated "content" content)),
      ("finish_reason", finishReason)]]).Fits (some maxStrDigits) (some (levels + 3)) := by
    intro levels
    refine Json.fits_arr.mpr (List.forall_mem_singleton.mpr (Json.fits_obj.mpr ?_))
    simp only [List.forall_mem_cons, List.not_mem_nil, false_implies, implies_true, and_true]
    exact ⟨Json.flat_int (by decide) _, delta levels, ended _⟩
  rw [Interpreter.Takes, deep, chunkObject]
  refine Json.fits_obj.mpr (List.forall_mem_append.mpr ⟨?_, fun member there => ?_⟩)
  · simp only [List.forall_mem_cons, List.not_mem_nil, false_implies, implies_true, and_true]
    exact ⟨identified _, Json.flat_str _ _, Json.flat_int short _, named _, choice _⟩
  · obtain ⟨counts, listed, rfl⟩ := List.mem_map.mp there
    obtain ⟨members, rfl, flat⟩ := counted counts (Option.mem_toList.mp listed)
    exact Json.fits_obj.mpr fun member inside => flat member inside _

/-- The counts of a chunk. -/
theorem shallow_usageJson {prompt completion total : ℤ} (first : Short prompt) (second : Short completion)
    (third : Short total) : Shallow (usageJson prompt completion total) := by
  refine ⟨_, rfl, ?_⟩
  simp only [List.forall_mem_cons, List.not_mem_nil, false_implies, implies_true, and_true]
  exact ⟨Json.flat_int first, Json.flat_int second, Json.flat_int third⟩

theorem keyed_usageJson (prompt completion total : ℤ) : (usageJson prompt completion total).Keyed := by
  simp [usageJson, Json.Keyed, Json.KeyedMembers]

/-- A chunk of the gateway is decoded to its object by every interpreter, if its texts and counts are
not too long. -/
theorem lineChunk_sseChunk {python : Interpreter} {created : ℤ} {id model role content finishReason : Json}
    {usage : Option Json} (keyed : (chunkObject created id model role content finishReason usage).Keyed)
    (takes : python.Takes (chunkObject created id model role content finishReason usage)) :
    lineChunk python (sseChunk created id model role content finishReason usage) =
      .ok (some (chunkObject created id model role content finishReason usage)) :=
  lineChunk_eventLine keyed takes

end LlmGateway
