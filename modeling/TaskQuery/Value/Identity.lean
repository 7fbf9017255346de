import TaskQuery.Value.Basic

namespace TaskQuery.Value

mutual

/-- Decides whether two values are identical. -/
def decideEq (v w : Value) : Decidable (v = w) :=
  match v with
  | .null =>
    match w with
    | .null => isTrue rfl
    | .bool _ | .int _ | .float _ | .str _ | .date _ | .datetime _ | .list _ | .dict _ | .record _ => isFalse nofun
  | .bool a =>
    match w with
    | .bool b =>
      if h : a = b then isTrue (congrArg Value.bool h) else isFalse fun e => h (bool.inj e)
    | .null | .int _ | .float _ | .str _ | .date _ | .datetime _ | .list _ | .dict _ | .record _ => isFalse nofun
  | .int a =>
    match w with
    | .int b =>
      if h : a = b then isTrue (congrArg Value.int h) else isFalse fun e => h (int.inj e)
    | .null | .bool _ | .float _ | .str _ | .date _ | .datetime _ | .list _ | .dict _ | .record _ => isFalse nofun
  | .float a =>
    match w with
    | .float b =>
      if h : a = b then isTrue (congrArg Value.float h) else isFalse fun e => h (float.inj e)
    | .null | .bool _ | .int _ | .str _ | .date _ | .datetime _ | .list _ | .dict _ | .record _ => isFalse nofun
  | .str a =>
    match w with
    | .str b =>
      if h : a = b then isTrue (congrArg Value.str h) else isFalse fun e => h (str.inj e)
    | .null | .bool _ | .int _ | .float _ | .date _ | .datetime _ | .list _ | .dict _ | .record _ => isFalse nofun
  | .date a =>
    match w with
    | .date b =>
      if h : a = b then isTrue (congrArg Value.date h) else isFalse fun e => h (date.inj e)
    | .null | .bool _ | .int _ | .float _ | .str _ | .datetime _ | .list _ | .dict _ | .record _ => isFalse nofun
  | .datetime a =>
    match w with
    | .datetime b =>
      if h : a = b then isTrue (congrArg Value.datetime h) else isFalse fun e => h (datetime.inj e)
    | .null | .bool _ | .int _ | .float _ | .str _ | .date _ | .list _ | .dict _ | .record _ => isFalse nofun
  | .list a =>
    match w with
    | .list b =>
      match decideEqItems a b with
      | isTrue h => isTrue (congrArg Value.list h)
      | isFalse h => isFalse fun e => h (list.inj e)
    | .null | .bool _ | .int _ | .float _ | .str _ | .date _ | .datetime _ | .dict _ | .record _ => isFalse nofun
  | .dict a =>
    match w with
    | .dict b =>
      match decideEqEntries a b with
      | isTrue h => isTrue (congrArg Value.dict h)
      | isFalse h => isFalse fun e => h (dict.inj e)
    | .null | .bool _ | .int _ | .float _ | .str _ | .date _ | .datetime _ | .list _ | .record _ => isFalse nofun
  | .record a =>
    match w with
    | .record b =>
      match decideEqEntries a b with
      | isTrue h => isTrue (congrArg Value.record h)
      | isFalse h => isFalse fun e => h (record.inj e)
    | .null | .bool _ | .int _ | .float _ | .str _ | .date _ | .datetime _ | .list _ | .dict _ => isFalse nofun

def decideEqItems (vs ws : List Value) : Decidable (vs = ws) :=
  match vs with
  | [] =>
    match ws with
    | [] => isTrue rfl
    | _ :: _ => isFalse nofun
  | v :: vs =>
    match ws with
    | [] => isFalse nofun
    | w :: ws =>
      match decideEq v w with
      | isFalse h => isFalse fun e => h (List.cons.inj e).1
      | isTrue first =>
        match decideEqItems vs ws with
        | isFalse h => isFalse fun e => h (List.cons.inj e).2
        | isTrue rest => isTrue (first ▸ rest ▸ rfl)

def decideEqEntries (vs ws : List (String × Value)) : Decidable (vs = ws) :=
  match vs with
  | [] =>
    match ws with
    | [] => isTrue rfl
    | _ :: _ => isFalse nofun
  | (k, v) :: vs =>
    match ws with
    | [] => isFalse nofun
    | (l, w) :: ws =>
      if key : k = l then
        match decideEq v w with
        | isFalse h => isFalse fun e => h (Prod.mk.inj (List.cons.inj e).1).2
        | isTrue first =>
          match decideEqEntries vs ws with
          | isFalse h => isFalse fun e => h (List.cons.inj e).2
          | isTrue rest => isTrue (key ▸ first ▸ rest ▸ rfl)
      else isFalse fun e => key (Prod.mk.inj (List.cons.inj e).1).1

end

instance : DecidableEq Value := decideEq

example : (Value.list [.dict [("a", .int 1)], .null] = .list [.dict [("a", .int 1)], .null]) := by decide

example : Value.int 1 ≠ .bool true := by decide

end TaskQuery.Value
