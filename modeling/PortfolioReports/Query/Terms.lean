import PortfolioReports.Vocabulary

namespace PortfolioReports

inductive Aggregate where
  | sum
  | average
  | count
  | minimum
  | maximum
deriving DecidableEq, Repr

inductive Operator where
  | eq
  | ne
  | gt
  | gte
  | lt
  | lte
  | like
  | isIn
  | between
  | isNull
  | isNotNull
  /-- Any name that is not an operator's. It compares for equality. -/
  | unknown
deriving DecidableEq, Repr

inductive Connective where
  | and
  | or
deriving DecidableEq, Repr

inductive Grain where
  | none
  | hour
  | day
  | week
  | month
  | quarter
  | year
deriving DecidableEq, Repr

inductive FieldType where
  | string
  | number
  | date
deriving DecidableEq, Repr

instance : Vocabulary Aggregate where
  title := "AggregateFunction"
  all := [.sum, .average, .count, .minimum, .maximum]
  name
    | .sum => "SUM"
    | .average => "AVG"
    | .count => "COUNT"
    | .minimum => "MIN"
    | .maximum => "MAX"
  find?_name a := by cases a <;> decide

instance : Vocabulary Operator where
  title := "FilterOperator"
  all := [.eq, .ne, .gt, .gte, .lt, .lte, .like, .isIn, .between, .isNull, .isNotNull, .unknown]
  name
    | .eq => "eq"
    | .ne => "ne"
    | .gt => "gt"
    | .gte => "gte"
    | .lt => "lt"
    | .lte => "lte"
    | .like => "like"
    | .isIn => "in"
    | .between => "between"
    | .isNull => "is_null"
    | .isNotNull => "is_not_null"
    | .unknown => "unknown"
  find?_name a := by cases a <;> decide

instance : Vocabulary Connective where
  title := "FilterLogic"
  all := [.and, .or]
  name
    | .and => "AND"
    | .or => "OR"
  find?_name a := by cases a <;> decide

instance : Vocabulary Grain where
  title := "TimeGrain"
  all := [.none, .hour, .day, .week, .month, .quarter, .year]
  name
    | .none => "none"
    | .hour => "hour"
    | .day => "day"
    | .week => "week"
    | .month => "month"
    | .quarter => "quarter"
    | .year => "year"
  find?_name a := by cases a <;> decide

instance : Vocabulary FieldType where
  title := "FieldType"
  all := [.string, .number, .date]
  name
    | .string => "string"
    | .number => "number"
    | .date => "date"
  find?_name a := by cases a <;> decide

def Grain.unit? : Grain → Option String
  | .none => Option.none
  | g => some (Vocabulary.name g)

def FieldType.label : FieldType → String
  | .string => "String"
  | .number => "Number"
  | .date => "Date"

def Operator.ofName (s : String) : Operator := (Vocabulary.ofName? s).getD .unknown

end PortfolioReports
