import TaskQuery.Filter.Tree

namespace TaskQuery.Unchecked

def Condition.toValue (c : Condition) : Value :=
  .dict [("field", .str c.field), ("operator", .str c.operator), ("value", c.operand.toValue)]

def Group.toValue (g : Group) : Value :=
  .dict [("conditions", .list (g.conditions.map Condition.toValue)), ("operator", .str g.operator)]

def Expression.toValue (e : Expression) : Value :=
  .dict [("groups", .list (e.groups.map Group.toValue)), ("operator", .str e.operator)]

end TaskQuery.Unchecked

namespace TaskQuery

def Expression.toValue (e : Filter) : Value :=
  e.unchecked.toValue

end TaskQuery
