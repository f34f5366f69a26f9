namespace TokenScopes.Text

/-- Every line end as one line feed. -/
def foldLineEnds : List Char → List Char
  | [] => []
  | '\r' :: '\n' :: cs => '\n' :: foldLineEnds cs
  | '\r' :: cs => '\n' :: foldLineEnds cs
  | c :: cs => c :: foldLineEnds cs

end TokenScopes.Text
