namespace GraphQLTree

inductive OperationType
  | query
  | mutation
  | subscription
deriving DecidableEq, Repr

namespace OperationType

def all : List OperationType := [.query, .mutation, .subscription]

def keyword : OperationType → String
  | .query => "query"
  | .mutation => "mutation"
  | .subscription => "subscription"

def label : OperationType → String
  | .query => "Query"
  | .mutation => "Mutation"
  | .subscription => "Subscription"

def ofKeyword? (s : String) : Option OperationType :=
  all.find? (·.keyword == s)

def ofLabel? (s : String) : Option OperationType :=
  all.find? (·.label == s)

theorem ofKeyword?_keyword (o : OperationType) : ofKeyword? o.keyword = some o := by
  cases o <;> decide

theorem ofLabel?_label (o : OperationType) : ofLabel? o.label = some o := by
  cases o <;> decide

end OperationType

end GraphQLTree
