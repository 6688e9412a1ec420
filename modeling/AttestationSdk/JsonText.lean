import AttestationSdk.PyValue

/-! Values as JSON text with an indent of two. Floats and dates are left out. -/
namespace PyValue

/-- A character between the quotes of a JSON string. -/
def escape (c : Char) : List Char :=
  if c = '"' ∨ c = '\\' then ['\\', c]
  else if 32 ≤ c.toNat ∧ c.toNat ≤ 126 then [c]
  else '\\' :: 'u' :: [12, 8, 4, 0].map fun shift => ((c.toNat >>> shift) % 16).digitChar

def quoted (s : String) : List Char := '"' :: s.toList.flatMap escape ++ ['"']

def newLine (depth : Nat) : List Char := '\n' :: List.replicate (2 * depth) ' '

mutual

/-- `json.dumps` with an indent of two. -/
def render (depth : Nat) : Value → List Char
  | .none => "null".toList
  | .bool b => (if b then "true" else "false").toList
  | .int n => (toString n).toList
  | .str s => quoted s
  | .list (v :: rest) => '[' :: newLine (depth + 1) ++ render (depth + 1) v ++
      renderItems (depth + 1) rest ++ newLine depth ++ [']']
  | .dict ((key, v) :: rest) => Char.ofNat 123 :: newLine (depth + 1) ++ quoted key ++
      ": ".toList ++ render (depth + 1) v ++ renderMembers (depth + 1) rest ++ newLine depth ++
      [Char.ofNat 125]
  | .list [] => "[]".toList
  | .dict [] => [Char.ofNat 123, Char.ofNat 125]
  | _ => []

def renderItems (depth : Nat) : List Value → List Char
  | [] => []
  | v :: rest => ',' :: newLine depth ++ render depth v ++ renderItems depth rest

def renderMembers (depth : Nat) : List (String × Value) → List Char
  | [] => []
  | (key, v) :: rest => ',' :: newLine depth ++ quoted key ++ ": ".toList ++ render depth v ++
      renderMembers depth rest

end

theorem noReturn_digitChar : ∀ n : Fin 16, n.val.digitChar ≠ '\r' := by
  decide

theorem noReturn_escape (c : Char) : '\r' ∉ escape c := by
  rw [escape]
  split_ifs with hquote hprint
  · obtain rfl | rfl := hquote <;> decide
  · intro hmem
    obtain rfl := List.mem_singleton.mp hmem
    revert hprint
    decide
  · intro hmem
    simp only [List.mem_cons, List.mem_map] at hmem
    obtain h | h | ⟨shift, -, h⟩ := hmem
    · revert h
      decide
    · revert h
      decide
    · exact noReturn_digitChar ⟨_, Nat.mod_lt _ (by decide)⟩ h

theorem noReturn_quoted (s : String) : '\r' ∉ quoted s := by
  have hchars : '\r' ∉ s.toList.flatMap escape := by
    intro hmem
    obtain ⟨c, -, hc⟩ := List.mem_flatMap.mp hmem
    exact noReturn_escape c hc
  simp [quoted, hchars]

theorem noReturn_nat (n : Nat) : '\r' ∉ (Nat.repr n).toList := by
  rw [Nat.repr, String.toList_ofList]
  intro hmem
  have hdigit := Nat.isDigit_of_mem_toDigits (by decide) (by decide) hmem
  revert hdigit
  decide

theorem noReturn_int (n : Int) : '\r' ∉ (toString n).toList := by
  cases n with
  | ofNat m => exact noReturn_nat m
  | negSucc m =>
    change '\r' ∉ ("-" ++ Nat.repr (m + 1)).toList
    rw [String.toList_append, List.mem_append, not_or]
    exact ⟨by decide, noReturn_nat (m + 1)⟩

mutual

theorem noReturn_render : ∀ (depth : Nat) (v : Value), '\r' ∉ render depth v
  | _, .none => by
    rw [render]
    decide
  | _, .bool b => by
    rw [render]
    cases b <;> decide
  | _, .int n => noReturn_int n
  | _, .float _ => by simp [render]
  | _, .datetime _ => by simp [render]
  | _, .str s => noReturn_quoted s
  | depth, .list [] => by simp [render]
  | depth, .list (v :: rest) => by
    have hv := noReturn_render (depth + 1) v
    have hrest := noReturn_renderItems (depth + 1) rest
    simp [render, newLine, hv, hrest]
  | depth, .dict [] => by simp [render]
  | depth, .dict ((key, v) :: rest) => by
    have hkey := noReturn_quoted key
    have hv := noReturn_render (depth + 1) v
    have hrest := noReturn_renderMembers (depth + 1) rest
    simp [render, newLine, hkey, hv, hrest]

theorem noReturn_renderItems : ∀ (depth : Nat) (items : List Value), '\r' ∉ renderItems depth items
  | _, [] => by simp [renderItems]
  | depth, v :: rest => by
    have hv := noReturn_render depth v
    have hrest := noReturn_renderItems depth rest
    simp [renderItems, newLine, hv, hrest]

theorem noReturn_renderMembers :
    ∀ (depth : Nat) (members : List (String × Value)), '\r' ∉ renderMembers depth members
  | _, [] => by simp [renderMembers]
  | depth, (key, v) :: rest => by
    have hkey := noReturn_quoted key
    have hv := noReturn_render depth v
    have hrest := noReturn_renderMembers depth rest
    simp [renderMembers, newLine, hkey, hv, hrest]

end

def jsonText (v : Value) : String := String.ofList (render 0 v)

theorem noReturn_jsonText (v : Value) : '\r' ∉ (jsonText v).toList := by
  rw [jsonText, String.toList_ofList]
  exact noReturn_render 0 v

end PyValue
