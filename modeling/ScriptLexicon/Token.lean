import ScriptLexicon.Code

/-!
# Tokens

The codes the lexicon gives a meaning, each under a name of its own. They lie side by side from
`Token.error` to `Token.last`, and tokens of one kind lie together, so that a kind is a range.
-/

namespace ScriptLexicon

/-! ## Control of the token stream -/

/-- The scanner could not read on. -/
def Token.error : Code := ⟨-1⟩
/-- The end of the input, which is not a character of it. -/
def Token.endOfInput : Code := ⟨0⟩
def Token.endOfLine : Code := ⟨1⟩

/-! ## Operations an interpreter may run -/

def Token.enterWith : Code := ⟨2⟩
def Token.leaveWith : Code := ⟨3⟩
def Token.return : Code := ⟨4⟩
def Token.goto : Code := ⟨5⟩
def Token.ifEq : Code := ⟨6⟩
def Token.ifNe : Code := ⟨7⟩
def Token.setName : Code := ⟨8⟩
def Token.bitOr : Code := ⟨9⟩
def Token.bitXor : Code := ⟨10⟩
def Token.bitAnd : Code := ⟨11⟩
def Token.eq : Code := ⟨12⟩
def Token.ne : Code := ⟨13⟩
def Token.lt : Code := ⟨14⟩
def Token.le : Code := ⟨15⟩
def Token.gt : Code := ⟨16⟩
def Token.ge : Code := ⟨17⟩
def Token.shiftLeft : Code := ⟨18⟩
def Token.shiftRight : Code := ⟨19⟩
def Token.shiftRightUnsigned : Code := ⟨20⟩
def Token.add : Code := ⟨21⟩
def Token.sub : Code := ⟨22⟩
def Token.mul : Code := ⟨23⟩
def Token.div : Code := ⟨24⟩
def Token.mod : Code := ⟨25⟩
def Token.not : Code := ⟨26⟩
def Token.bitNot : Code := ⟨27⟩
def Token.plus : Code := ⟨28⟩
def Token.minus : Code := ⟨29⟩
def Token.new : Code := ⟨30⟩
/-- The operator of `delete`. -/
def Token.deleteProp : Code := ⟨31⟩
def Token.typeof : Code := ⟨32⟩
def Token.getProp : Code := ⟨33⟩
def Token.getPropNoWarn : Code := ⟨34⟩
def Token.setProp : Code := ⟨35⟩
def Token.getElem : Code := ⟨36⟩
def Token.setElem : Code := ⟨37⟩
def Token.call : Code := ⟨38⟩
def Token.name : Code := ⟨39⟩
def Token.number : Code := ⟨40⟩
def Token.string : Code := ⟨41⟩
def Token.null : Code := ⟨42⟩
def Token.this : Code := ⟨43⟩
def Token.false : Code := ⟨44⟩
def Token.true : Code := ⟨45⟩
def Token.strictEq : Code := ⟨46⟩
def Token.strictNe : Code := ⟨47⟩
def Token.regExp : Code := ⟨48⟩
def Token.bindName : Code := ⟨49⟩
def Token.throw : Code := ⟨50⟩
/-- Throws a caught exception again when no condition of its `catch` holds. -/
def Token.rethrow : Code := ⟨51⟩
def Token.in : Code := ⟨52⟩
def Token.instanceof : Code := ⟨53⟩
def Token.localLoad : Code := ⟨54⟩
def Token.getVar : Code := ⟨55⟩
def Token.setVar : Code := ⟨56⟩
def Token.catchScope : Code := ⟨57⟩
def Token.enumInitKeys : Code := ⟨58⟩
def Token.enumInitValues : Code := ⟨59⟩
def Token.enumInitArray : Code := ⟨60⟩
def Token.enumNext : Code := ⟨61⟩
def Token.enumId : Code := ⟨62⟩
def Token.thisFn : Code := ⟨63⟩
/-- Returns a result stored before. -/
def Token.returnResult : Code := ⟨64⟩
def Token.arrayLit : Code := ⟨65⟩
def Token.objectLit : Code := ⟨66⟩
def Token.getRef : Code := ⟨67⟩
def Token.setRef : Code := ⟨68⟩
def Token.delRef : Code := ⟨69⟩
/-- A call in the place of an assignment target. -/
def Token.refCall : Code := ⟨70⟩
/-- A reference to a special property such as `__proto__`. -/
def Token.refSpecial : Code := ⟨71⟩
def Token.yield : Code := ⟨72⟩
def Token.strictSetName : Code := ⟨73⟩
/-- The `default xml namespace` statement. -/
def Token.defaultNamespace : Code := ⟨74⟩
def Token.escapeXmlAttr : Code := ⟨75⟩
def Token.escapeXmlText : Code := ⟨76⟩
/-- A reference for `x.@y` and `x..y`. -/
def Token.refMember : Code := ⟨77⟩
/-- A reference for `x.ns::y` and `x..ns::y`. -/
def Token.refNsMember : Code := ⟨78⟩
/-- A reference for `@y` and `@[y]`. -/
def Token.refName : Code := ⟨79⟩
/-- A reference for `ns::y`, `@ns::y` and `@ns::[y]`. -/
def Token.refNsName : Code := ⟨80⟩

/-! ## Punctuation, and `try` -/

def Token.try : Code := ⟨81⟩
def Token.semicolon : Code := ⟨82⟩
def Token.leftBracket : Code := ⟨83⟩
def Token.rightBracket : Code := ⟨84⟩
def Token.leftBrace : Code := ⟨85⟩
def Token.rightBrace : Code := ⟨86⟩
def Token.leftParen : Code := ⟨87⟩
def Token.rightParen : Code := ⟨88⟩
def Token.comma : Code := ⟨89⟩

/-! ## Assignment operators -/

def Token.assign : Code := ⟨90⟩
def Token.assignBitOr : Code := ⟨91⟩
def Token.assignBitXor : Code := ⟨92⟩
def Token.assignBitAnd : Code := ⟨93⟩
def Token.assignShiftLeft : Code := ⟨94⟩
def Token.assignShiftRight : Code := ⟨95⟩
def Token.assignShiftRightUnsigned : Code := ⟨96⟩
def Token.assignAdd : Code := ⟨97⟩
def Token.assignSub : Code := ⟨98⟩
def Token.assignMul : Code := ⟨99⟩
def Token.assignDiv : Code := ⟨100⟩
def Token.assignMod : Code := ⟨101⟩

/-! ## Operators and words of statements -/

/-- The `?` of a conditional expression. -/
def Token.conditional : Code := ⟨102⟩
def Token.colon : Code := ⟨103⟩
def Token.or : Code := ⟨104⟩
def Token.and : Code := ⟨105⟩
def Token.increment : Code := ⟨106⟩
def Token.decrement : Code := ⟨107⟩
def Token.dot : Code := ⟨108⟩
def Token.function : Code := ⟨109⟩
def Token.export : Code := ⟨110⟩
def Token.import : Code := ⟨111⟩
def Token.if : Code := ⟨112⟩
def Token.else : Code := ⟨113⟩
def Token.switch : Code := ⟨114⟩
def Token.case : Code := ⟨115⟩
def Token.default : Code := ⟨116⟩
def Token.while : Code := ⟨117⟩
def Token.do : Code := ⟨118⟩
def Token.for : Code := ⟨119⟩
def Token.break : Code := ⟨120⟩
def Token.continue : Code := ⟨121⟩
def Token.var : Code := ⟨122⟩
def Token.with : Code := ⟨123⟩
def Token.catch : Code := ⟨124⟩
def Token.finally : Code := ⟨125⟩
def Token.void : Code := ⟨126⟩
/-- Any word kept for later editions of the language. -/
def Token.reserved : Code := ⟨127⟩
def Token.empty : Code := ⟨128⟩

/-! ## Tree nodes that no scanner returns -/

def Token.block : Code := ⟨129⟩
def Token.label : Code := ⟨130⟩
def Token.target : Code := ⟨131⟩
def Token.loop : Code := ⟨132⟩
/-- An expression statement inside a function. -/
def Token.exprVoid : Code := ⟨133⟩
/-- An expression statement of a script, whose value is kept. -/
def Token.exprResult : Code := ⟨134⟩
def Token.jumpSubroutine : Code := ⟨135⟩
/-- The root of the tree of a whole script. -/
def Token.script : Code := ⟨136⟩
/-- The operator `typeof` before a plain name. -/
def Token.typeofName : Code := ⟨137⟩
def Token.useStack : Code := ⟨138⟩
/-- A compound assignment to a property. -/
def Token.setPropOp : Code := ⟨139⟩
/-- A compound assignment to an element. -/
def Token.setElemOp : Code := ⟨140⟩
def Token.localBlock : Code := ⟨141⟩
/-- A compound assignment through a reference. -/
def Token.setRefOp : Code := ⟨142⟩

/-! ## XML -/

def Token.dotDot : Code := ⟨143⟩
def Token.colonColon : Code := ⟨144⟩
def Token.xml : Code := ⟨145⟩
/-- The filter of `x.(p)`. -/
def Token.dotQuery : Code := ⟨146⟩
def Token.xmlAttr : Code := ⟨147⟩
def Token.xmlEnd : Code := ⟨148⟩

/-! ## Conversions, and words of later editions -/

def Token.toObject : Code := ⟨149⟩
def Token.toDouble : Code := ⟨150⟩
def Token.get : Code := ⟨151⟩
def Token.set : Code := ⟨152⟩
def Token.let : Code := ⟨153⟩
def Token.const : Code := ⟨154⟩
def Token.setConst : Code := ⟨155⟩
def Token.setConstVar : Code := ⟨156⟩
def Token.arrayComp : Code := ⟨157⟩
def Token.letExpr : Code := ⟨158⟩
def Token.withExpr : Code := ⟨159⟩
def Token.debugger : Code := ⟨160⟩
def Token.comment : Code := ⟨161⟩
def Token.genExpr : Code := ⟨162⟩

/-! ## The end of the code space -/

/-- The upper end of the code space. No token carries it and it has no name. -/
def Token.last : Code := ⟨163⟩

/-! ## The ends of two ranges -/

def Token.firstOperation : Code := Token.enterWith
def Token.lastOperation : Code := Token.refNsName
def Token.firstAssignment : Code := Token.assign
def Token.lastAssignment : Code := Token.assignMod

end ScriptLexicon
