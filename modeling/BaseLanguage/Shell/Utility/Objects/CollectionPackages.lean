namespace BaseLanguage.Shell.Objects

/-!
# Packages about values

These packages hold kinds of collections, tools for functions and for classes.
-/

def collectionsProgram : String :=
"import sys as _sys
|class OrderedDict(dict):
| def move_to_end(self, key, last=True):
|  value = self.pop(key)
|  if last: self[key] = value
|  else:
|   rest = list(self.items())
|   self.clear()
|   self[key] = value
|   self.update(rest)
| def popitem(self, last=True):
|  if not self: raise KeyError('dictionary is empty')
|  key = list(self)[-1] if last else next(iter(self))
|  return key, self.pop(key)
| def __repr__(self):
|  if not self: return '%s()' % type(self).__name__
|  return '%s(%r)' % (type(self).__name__, list(self.items()))
| def __eq__(self, other):
|  if isinstance(other, OrderedDict): return list(self.items()) == list(other.items())
|  return dict.__eq__(self, other)
| def copy(self): return type(self)(self)
| @classmethod
| def fromkeys(cls, keys, value=None): return cls((key, value) for key in keys)
|class defaultdict(dict):
| def __init__(self, default_factory=None, /, *args, **kwargs):
|  if default_factory is not None and not callable(default_factory):
|   raise TypeError('first argument must be callable or None')
|  self.default_factory = default_factory
|  dict.__init__(self, *args, **kwargs)
| def __missing__(self, key):
|  if self.default_factory is None: raise KeyError(key)
|  value = self[key] = self.default_factory()
|  return value
| def __repr__(self): return 'defaultdict(%r, %s)' % (self.default_factory, dict.__repr__(self))
| def copy(self): return type(self)(self.default_factory, self)
| __copy__ = copy
|class Counter(dict):
| def __init__(self, iterable=None, /, **kwds):
|  dict.__init__(self)
|  self.update(iterable, **kwds)
| def __missing__(self, key): return 0
| def total(self): return sum(self.values())
| def most_common(self, n=None):
|  pairs = sorted(self.items(), key=lambda pair: pair[1], reverse=True)
|  return pairs if n is None else pairs[:max(n, 0)]
| def elements(self):
|  for key, count in self.items():
|   for _ in range(count): yield key
| @classmethod
| def fromkeys(cls, keys, value=None):
|  raise NotImplementedError(
|   'Counter.fromkeys() is undefined.  Use Counter(iterable) instead.')
| def _add(self, iterable, sign, named):
|  if iterable is not None:
|   if hasattr(iterable, 'items'):
|    for key, count in iterable.items(): self[key] = self.get(key, 0) + sign * count
|   else:
|    for key in iterable: self[key] = self.get(key, 0) + sign
|  for key, count in named.items(): self[key] = self.get(key, 0) + sign * count
| def update(self, iterable=None, /, **kwds): self._add(iterable, 1, kwds)
| def subtract(self, iterable=None, /, **kwds): self._add(iterable, -1, kwds)
| def copy(self): return type(self)(self)
| def __delitem__(self, key):
|  if key in self: dict.__delitem__(self, key)
| def __repr__(self):
|  if not self: return '%s()' % type(self).__name__
|  return '%s(\x7b%s\x7d)' % (type(self).__name__,
|   ', '.join('%r: %r' % pair for pair in self.most_common()))
| def _joined(self, other, function):
|  found = Counter()
|  for key in list(self) + [key for key in other if key not in self]:
|   count = function(self[key], other[key])
|   if count > 0: found[key] = count
|  return found
| def __eq__(self, other):
|  if not isinstance(other, Counter): return NotImplemented
|  return all(self[key] == other[key] for key in list(self) + list(other))
| def __ne__(self, other): return not self == other
| def __le__(self, other): return all(self[key] <= other[key] for key in list(self) + list(other))
| def __lt__(self, other): return self <= other and self != other
| def __ge__(self, other): return other <= self
| def __gt__(self, other): return other < self
| def __add__(self, other): return self._joined(other, lambda a, b: a + b)
| def __sub__(self, other): return self._joined(other, lambda a, b: a - b)
| def __or__(self, other): return self._joined(other, max)
| def __and__(self, other): return self._joined(other, min)
| def __pos__(self): return self + Counter()
| def __neg__(self): return Counter() - self
| def __iadd__(self, other):
|  self.update(other)
|  return self._positive()
| def __isub__(self, other):
|  self.subtract(other)
|  return self._positive()
| def _positive(self):
|  for key in [key for key, count in self.items() if count <= 0]: del self[key]
|  return self
|from keyword import kwlist as _keywords
|def namedtuple(typename, field_names, *, rename=False, defaults=None, module=None):
| if isinstance(field_names, str): field_names = field_names.replace(',', ' ').split()
| names = [str(name) for name in field_names]
| if rename:
|  for place, name in enumerate(names):
|   if (not name.isidentifier() or name in _keywords or name.startswith('_')
|     or name in names[:place]):
|    names[place] = '_%d' % place
| for name in [typename] + names:
|  if not name.isidentifier():
|   raise ValueError(
|    'Type names and field names must be valid identifiers: %r' % name)
|  if name in _keywords:
|   raise ValueError('Type names and field names cannot be a keyword: %r' % name)
| for place, name in enumerate(names):
|  if name.startswith('_'):
|   raise ValueError('Field names cannot start with an underscore: %r' % name)
|  if name in names[:place]: raise ValueError('Encountered duplicate field name: %r' % name)
| usual = \x7b\x7d
| if defaults is not None:
|  defaults = tuple(defaults)
|  if len(defaults) > len(names): raise TypeError('Got more default values than field names')
|  usual = dict(zip(names[len(names) - len(defaults):], defaults))
| head = ', '.join(name + '=_usual[%r]' % name if name in usual else name for name in names)
| places = \x7b'_usual': usual, '_make': tuple.__new__\x7d
| exec('def __new__(_cls%s):\\n    return _make(_cls, (%s))' % (
|  ', ' + head if head else '', ''.join(name + ', ' for name in names)), places)
| table = \x7b'__new__': places['__new__'], '_fields': tuple(names),
|  '_field_defaults': usual, '__match_args__': tuple(names), '__slots__': (),
|  '__doc__': '%s(%s)' % (typename, ', '.join(names))\x7d
| for place, name in enumerate(names):
|  table[name] = property(lambda self, place=place: tuple.__getitem__(self, place))
| made = type(typename, (_Named, tuple), table)
| made.__bases_shown__ = (tuple,)
| try: made.__module__ = module or _sys._getframe(1).f_globals['__name__']
| except (AttributeError, KeyError): made.__module__ = '__main__'
| return made
|class _Named:
| def __repr__(self):
|  return '%s(%s)' % (type(self).__name__,
|   ', '.join('%s=%r' % pair for pair in zip(self._fields, self)))
| def _asdict(self):
|  return dict(zip(self._fields, self))
| @classmethod
| def _make(cls, items):
|  items = tuple(items)
|  if len(items) != len(cls._fields):
|   raise TypeError('Expected %d arguments, got %d' % (len(cls._fields), len(items)))
|  return tuple.__new__(cls, items)
| def _replace(self, /, **changes):
|  found = self._make(
|   changes.pop(name, value) for name, value in zip(self._fields, self))
|  if changes:
|   raise ValueError('Got unexpected field names: %r' % list(changes))
|  return found
| def __getnewargs__(self): return tuple(self)
|class deque:
| @property
| def __is_sequence__(self): return True
| def __init__(self, iterable=(), maxlen=None):
|  if maxlen is not None and maxlen < 0: raise ValueError('maxlen must be non-negative')
|  self._items, self.maxlen = [], maxlen
|  self.extend(iterable)
| def append(self, item):
|  self._items.append(item)
|  if self.maxlen is not None and len(self._items) > self.maxlen: del self._items[0]
| def appendleft(self, item):
|  self._items.insert(0, item)
|  if self.maxlen is not None and len(self._items) > self.maxlen: self._items.pop()
| def extend(self, iterable):
|  for item in list(iterable): self.append(item)
| def extendleft(self, iterable):
|  for item in list(iterable): self.appendleft(item)
| def pop(self):
|  if not self._items: raise IndexError('pop from an empty deque')
|  return self._items.pop()
| def popleft(self):
|  if not self._items: raise IndexError('pop from an empty deque')
|  return self._items.pop(0)
| def clear(self): self._items.clear()
| def copy(self): return type(self)(self._items, self.maxlen)
| __copy__ = copy
| def count(self, item): return self._items.count(item)
| def index(self, item, *bounds):
|  try: return self._items.index(item, *bounds)
|  except ValueError: raise ValueError('%r is not in deque' % (item,)) from None
| def insert(self, place, item):
|  if self.maxlen is not None and len(self._items) >= self.maxlen:
|   raise IndexError('deque already at its maximum size')
|  self._items.insert(place, item)
| def remove(self, item):
|  try: self._items.remove(item)
|  except ValueError: raise ValueError('deque.remove(x): x not in deque') from None
| def reverse(self): self._items.reverse()
| def rotate(self, n=1):
|  if self._items:
|   start = len(self._items) - n % len(self._items)
|   self._items = self._items[start:] + self._items[:start]
| def _at(self, place):
|  if not isinstance(place, int):
|   raise TypeError(
|    \"sequence index must be integer, not '%s'\" % type(place).__name__)
|  if not -len(self._items) <= place < len(self._items):
|   raise IndexError('deque index out of range')
|  return place
| def __getitem__(self, place): return self._items[self._at(place)]
| def __setitem__(self, place, item): self._items[self._at(place)] = item
| def __delitem__(self, place): del self._items[self._at(place)]
| def __len__(self): return len(self._items)
| def __iter__(self):
|  count = len(self._items)
|  for item in self._items:
|   yield item
|   if len(self._items) != count: raise RuntimeError('deque mutated during iteration')
| def __reversed__(self): return iter(self._items[::-1])
| def __contains__(self, item): return item in self._items
| def __bool__(self): return bool(self._items)
| def _rows(self, other): return other._items if isinstance(other, deque) else None
| def __eq__(self, other): return isinstance(other, deque) and self._items == other._items
| def __lt__(self, other): return self._items < other._items
| def __le__(self, other): return self._items <= other._items
| def __gt__(self, other): return self._items > other._items
| def __ge__(self, other): return self._items >= other._items
| def __hash__(self): raise TypeError(\"unhashable type: 'collections.deque'\")
| def __add__(self, other):
|  if not isinstance(other, deque):
|   raise TypeError('can only concatenate deque (not \"%s\") to deque'
|    % type(other).__name__)
|  return type(self)(self._items + other._items, self.maxlen)
| def __iadd__(self, other):
|  self.extend(other)
|  return self
| def __mul__(self, times): return type(self)(self._items * times, self.maxlen)
| def __repr__(self):
|  if self.maxlen is None: return 'deque(%r)' % self._items
|  return 'deque(%r, maxlen=%d)' % (self._items, self.maxlen)
|class ChainMap:
| def __init__(self, *maps): self.maps = list(maps) or [\x7b\x7d]
| def __getitem__(self, key):
|  for table in self.maps:
|   if key in table: return table[key]
|  raise KeyError(key)
| def get(self, key, default=None): return self[key] if key in self else default
| def __setitem__(self, key, value): self.maps[0][key] = value
| def __delitem__(self, key):
|  if key not in self.maps[0]: raise KeyError('Key not found in the first mapping: %r' % (key,))
|  del self.maps[0][key]
| def _all(self):
|  found = \x7b\x7d
|  for table in reversed(self.maps): found.update(dict.fromkeys(table))
|  return found
| def __iter__(self): return iter(self._all())
| def __len__(self): return len(self._all())
| def __contains__(self, key): return any(key in table for table in self.maps)
| def keys(self): return self._all().keys()
| def items(self): return [(key, self[key]) for key in self]
| def values(self): return [self[key] for key in self]
| def new_child(self, m=None): return ChainMap(\x7b\x7d if m is None else m, *self.maps)
| parents = property(lambda self: ChainMap(*self.maps[1:]))
| def __repr__(self): return 'ChainMap(%s)' % ', '.join(map(repr, self.maps))
|class UserDict(dict): data = property(lambda self: self)
|class UserList(list): data = property(lambda self: self)
|class UserString(str):
| data = property(lambda self: str(self))"

def collectionsAbcProgram : String :=
"def _kind(name, *needs):
| def instance(cls, value):
|  return all(getattr(type(value), need, None) is not None for need in needs)
| def subclass(cls, other): return all(getattr(other, need, None) is not None for need in needs)
| return type(name, (), \x7b'__instancecheck_of__': instance,
|  '__subclasscheck_of__': subclass, '__module__': 'collections.abc',
|  '__class_getitem__': classmethod(lambda cls, parts: cls)\x7d)
|Hashable = _kind('Hashable', '__hash__')
|Iterable = _kind('Iterable', '__iter__')
|Iterator = _kind('Iterator', '__iter__', '__next__')
|Generator = _kind('Generator', '__iter__', '__next__', 'send', 'throw', 'close')
|Reversible = _kind('Reversible', '__iter__', '__reversed__')
|Sized = _kind('Sized', '__len__')
|Container = _kind('Container', '__contains__')
|Callable = _kind('Callable', '__call__')
|Collection = _kind('Collection', '__len__', '__iter__', '__contains__')
|def _one_of(name, *types):
| def instance(cls, value): return isinstance(value, types)
| def subclass(cls, other): return issubclass(other, types)
| return type(name, (), \x7b'__instancecheck_of__': instance,
|  '__subclasscheck_of__': subclass, '__module__': 'collections.abc',
|  '__class_getitem__': classmethod(lambda cls, parts: cls)\x7d)
|Sequence = _one_of('Sequence', list, tuple, str, bytes, bytearray, range)
|MutableSequence = _one_of('MutableSequence', list, bytearray)
|ByteString = _one_of('ByteString', bytes, bytearray)
|Set = _one_of('Set', set, frozenset, type(\x7b\x7d.keys()), type(\x7b\x7d.items()))
|MutableSet = _one_of('MutableSet', set)
|Mapping = _one_of('Mapping', dict)
|MutableMapping = _one_of('MutableMapping', dict)
|KeysView = _one_of('KeysView', type(\x7b\x7d.keys()))
|ValuesView = _one_of('ValuesView', type(\x7b\x7d.values()))
|ItemsView = _one_of('ItemsView', type(\x7b\x7d.items()))"

def itertoolsProgram : String :=
"class count:
| def __init__(self, start=0, step=1): self._next, self._step = start, step
| def __iter__(self): return self
| def __next__(self):
|  found = self._next
|  self._next = found + self._step
|  return found
| def __repr__(self):
|  if self._step == 1: return 'count(%r)' % (self._next,)
|  return 'count(%r, %r)' % (self._next, self._step)
|def cycle(iterable):
| seen = []
| for item in iterable:
|  yield item
|  seen.append(item)
| while seen: yield from seen
|class repeat:
| def __init__(self, object, times=None): self._item, self._left = object, times
| def __iter__(self): return self
| def __next__(self):
|  if self._left is not None:
|   if self._left <= 0: raise StopIteration
|   self._left -= 1
|  return self._item
|class chain:
| def __init__(self, *iterables): self._items = _joined(iterables)
| @classmethod
| def from_iterable(cls, iterables):
|  found = cls()
|  found._items = _joined(iterables)
|  return found
| def __iter__(self): return self
| def __next__(self): return next(self._items)
|def _joined(iterables):
| for iterable in iterables:
|  for item in iterable: yield item
|def compress(data, selectors): return (item for item, wanted in zip(data, selectors) if wanted)
|def dropwhile(predicate, iterable):
| items = iter(iterable)
| for item in items:
|  if not predicate(item):
|   yield item
|   break
| for item in items: yield item
|def takewhile(predicate, iterable):
| for item in iterable:
|  if not predicate(item): return
|  yield item
|def filterfalse(predicate, iterable):
| for item in iterable:
|  if not (item if predicate is None else predicate(item)): yield item
|def starmap(function, iterable):
| for row in iterable: yield function(*row)
|def pairwise(iterable):
| items = iter(iterable)
| for before in items:
|  for item in items:
|   yield before, item
|   before = item
|def islice(iterable, *bounds):
| if len(bounds) == 1: start, stop, step = 0, bounds[0], 1
| else: start, stop, step = (bounds + (None,))[:3]
| start, step = start or 0, 1 if step is None else step
| if start < 0 or stop is not None and stop < 0:
|  raise ValueError(
|   'Indices for islice() must be None or an integer: 0 <= x <= sys.maxsize.')
| return _part(iter(iterable), start, stop, step)
|def _part(items, start, stop, step):
| place, wanted = 0, start
| while stop is None or place < stop:
|  if wanted >= stop if stop is not None else False:
|   while place < stop:
|    next(items, None)
|    place += 1
|   return
|  try: item = next(items)
|  except StopIteration: return
|  if place == wanted:
|   yield item
|   wanted += step
|  place += 1
|def tee(iterable, n=2):
| items = iter(iterable)
| waiting = [[] for _ in range(n)]
| def one(mine):
|  while True:
|   if not mine:
|    try: item = next(items)
|    except StopIteration: return
|    for other in waiting: other.append(item)
|   yield mine.pop(0)
| return tuple(one(mine) for mine in waiting)
|def zip_longest(*iterables, fillvalue=None):
| rows = [iter(iterable) for iterable in iterables]
| left = len(rows)
| end = object()
| while left:
|  row = []
|  for place, items in enumerate(rows):
|   item = next(items, end) if items is not None else end
|   if item is end:
|    if items is not None:
|     rows[place] = None
|     left -= 1
|    item = fillvalue
|   row.append(item)
|  if left: yield tuple(row)
|def accumulate(iterable, func=None, *, initial=None):
| items = iter(iterable)
| total = initial
| if initial is None:
|  try: total = next(items)
|  except StopIteration: return
| yield total
| for item in items:
|  total = total + item if func is None else func(total, item)
|  yield total
|class groupby:
| def __init__(self, iterable, key=None):
|  self._items, self._key = iter(iterable), key
|  self._here = self._target = object()
|  self._item, self._is_over = None, False
| def __iter__(self): return self
| def _advance(self):
|  self._item = next(self._items)
|  self._here = self._item if self._key is None else self._key(self._item)
| def __next__(self):
|  while self._here is self._target or self._here == self._target:
|   if self._is_over: raise StopIteration
|   self._advance()
|  if self._is_over: raise StopIteration
|  self._target = self._here
|  return self._here, self._group(self._target)
| def _group(self, target):
|  while self._target is target and self._here == target:
|   yield self._item
|   try: self._advance()
|   except StopIteration:
|    self._is_over = True
|    return
|def product(*iterables, repeat=1):
| rows = [tuple(iterable) for iterable in iterables] * repeat
| return _products(rows, 0, ())
|def _products(rows, place, found):
| if place == len(rows): yield found
| else:
|  for item in rows[place]: yield from _products(rows, place + 1, found + (item,))
|def permutations(iterable, r=None):
| items = tuple(iterable)
| return _permuted(items, len(items) if r is None else r, ())
|def _permuted(items, count, found):
| if count == 0: yield found
| else:
|  for place, item in enumerate(items):
|   rest = items[:place] + items[place + 1:]
|   yield from _permuted(rest, count - 1, found + (item,))
|def combinations(iterable, r): return _combined(tuple(iterable), r, 0, 1, ())
|def combinations_with_replacement(iterable, r): return _combined(tuple(iterable), r, 0, 0, ())
|def _combined(items, count, start, step, found):
| if count == 0: yield found
| else:
|  for place in range(start, len(items)):
|   more = found + (items[place],)
|   yield from _combined(items, count - 1, place + step, step, more)"

def functoolsProgram : String :=
"def reduce(function, iterable, *initial):
| items = iter(iterable)
| if initial: total = initial[0]
| else:
|  try: total = next(items)
|  except StopIteration:
|   raise TypeError('reduce() of empty iterable with no initial value') from None
| for item in items: total = function(total, item)
| return total
|WRAPPER_ASSIGNMENTS = ('__module__', '__name__', '__qualname__', '__doc__')
|WRAPPER_UPDATES = ('__dict__',)
|def update_wrapper(wrapper, wrapped, assigned=WRAPPER_ASSIGNMENTS, updated=WRAPPER_UPDATES):
| for name in assigned:
|  if hasattr(wrapped, name): setattr(wrapper, name, getattr(wrapped, name))
| for name, value in getattr(wrapped, '__dict__', \x7b\x7d).items(): setattr(wrapper, name, value)
| wrapper.__wrapped__ = wrapped
| return wrapper
|def wraps(wrapped, assigned=WRAPPER_ASSIGNMENTS, updated=WRAPPER_UPDATES):
| return lambda wrapper: update_wrapper(wrapper, wrapped, assigned, updated)
|class partial:
| def __init__(self, func, /, *args, **keywords):
|  if not callable(func): raise TypeError('the first argument must be callable')
|  if isinstance(func, partial):
|   args = func.args + args
|   keywords = \x7b**func.keywords, **keywords\x7d
|   func = func.func
|  self.func, self.args, self.keywords = func, args, keywords
| def __call__(self, /, *args, **keywords):
|  return self.func(*self.args, *args, **\x7b**self.keywords, **keywords\x7d)
| def __repr__(self):
|  parts = [repr(self.func)] + [repr(item) for item in self.args]
|  parts += ['%s=%r' % pair for pair in self.keywords.items()]
|  return 'functools.partial(%s)' % ', '.join(parts)
|class partialmethod:
| def __init__(self, func, /, *args, **keywords):
|  self.func, self.args, self.keywords = func, args, keywords
| def __get__(self, value, owner=None):
|  return partial(self.func, value, *self.args, **self.keywords)
|class _CacheInfo(tuple):
| hits = property(lambda self: self[0])
| misses = property(lambda self: self[1])
| maxsize = property(lambda self: self[2])
| currsize = property(lambda self: self[3])
| def __repr__(self): return 'CacheInfo(hits=%r, misses=%r, maxsize=%r, currsize=%r)' % tuple(self)
|def lru_cache(maxsize=128, typed=False):
| if callable(maxsize): return _cached(maxsize, 128)
| return lambda function: _cached(function, maxsize)
|def cache(function): return _cached(function, None)
|def _cached(function, most):
| known = \x7b\x7d
| counts = [0, 0]
| def wrapper(*args, **named):
|  key = (args, tuple(named.items())) if named else args
|  if key in known:
|   counts[0] += 1
|   found = known.pop(key)
|   known[key] = found
|   return found
|  counts[1] += 1
|  found = function(*args, **named)
|  if most != 0:
|   if most is not None and len(known) >= most and key not in known: del known[next(iter(known))]
|   known[key] = found
|  return found
| def cache_info(): return _CacheInfo((counts[0], counts[1], most, len(known)))
| def cache_clear():
|  known.clear()
|  counts[:] = [0, 0]
| wrapper.cache_info, wrapper.cache_clear = cache_info, cache_clear
| return update_wrapper(wrapper, function)
|def cmp_to_key(compare):
| class Key:
|  __slots__ = ('obj',)
|  def __init__(self, obj): self.obj = obj
|  def __lt__(self, other): return compare(self.obj, other.obj) < 0
|  def __gt__(self, other): return compare(self.obj, other.obj) > 0
|  def __eq__(self, other): return compare(self.obj, other.obj) == 0
|  def __le__(self, other): return compare(self.obj, other.obj) <= 0
|  def __ge__(self, other): return compare(self.obj, other.obj) >= 0
| return Key
|class cached_property:
| def __init__(self, func): self.func, self.attrname = func, None
| def __set_name__(self, owner, name): self.attrname = name
| def __get__(self, value, owner=None):
|  if value is None: return self
|  if self.attrname not in value.__dict__: value.__dict__[self.attrname] = self.func(value)
|  return value.__dict__[self.attrname]
|def total_ordering(cls):
| own = [name for name in ('__lt__', '__le__', '__gt__', '__ge__')
|  if getattr(cls, name, None) is not getattr(object, name, None)]
| if not own:
|  raise ValueError('must define at least one ordering operation: < > <= >=')
| first = own[0]
| base = getattr(cls, first)
| def less(self, other):
|  if first == '__lt__': return base(self, other)
|  if first == '__le__': return base(self, other) and self != other
|  if first == '__gt__': return not base(self, other) and self != other
|  return not base(self, other)
| def same_or_less(self, other): return less(self, other) or self == other
| made = \x7b'__lt__': less, '__le__': same_or_less,
|  '__gt__': lambda self, other: not same_or_less(self, other),
|  '__ge__': lambda self, other: not less(self, other)\x7d
| for name, function in made.items():
|  if name not in own: setattr(cls, name, function)
| return cls
|def singledispatch(function):
| known = \x7bobject: function\x7d
| def choose(cls):
|  for base in cls.__mro__:
|   if base in known: return known[base]
|  return function
| def wrapper(*args, **named): return choose(type(args[0]))(*args, **named)
| def register(cls, other=None):
|  if other is None:
|   if not isinstance(cls, type):
|    known[next(iter(cls.__annotations__.values()))] = cls
|    return cls
|   return lambda other: register(cls, other)
|  known[cls] = other
|  return other
| wrapper.register, wrapper.dispatch, wrapper.registry = register, choose, known
| return update_wrapper(wrapper, function)"

def operatorProgram : String :=
"def add(a, b): return a + b
|def sub(a, b): return a - b
|def mul(a, b): return a * b
|def truediv(a, b): return a / b
|def floordiv(a, b): return a // b
|def mod(a, b): return a % b
|def pow(a, b): return a ** b
|def matmul(a, b): return a @ b
|def lshift(a, b): return a << b
|def rshift(a, b): return a >> b
|def and_(a, b): return a & b
|def or_(a, b): return a | b
|def xor(a, b): return a ^ b
|def neg(a): return -a
|def pos(a): return +a
|def inv(a): return ~a
|invert = inv
|def not_(a): return not a
|def truth(a): return bool(a)
|def is_(a, b): return a is b
|def is_not(a, b): return a is not b
|def eq(a, b): return a == b
|def ne(a, b): return a != b
|def lt(a, b): return a < b
|def le(a, b): return a <= b
|def gt(a, b): return a > b
|def ge(a, b): return a >= b
|def index(a): return a.__index__()
|def concat(a, b): return a + b
|def contains(a, b): return b in a
|def getitem(a, b): return a[b]
|def setitem(a, b, c): a[b] = c
|def delitem(a, b): del a[b]
|def iadd(a, b):
| a += b
| return a
|def countOf(a, b): return sum(1 for item in a if item is b or item == b)
|def indexOf(a, b):
| for place, item in enumerate(a):
|  if item is b or item == b: return place
| raise ValueError('sequence.index(x): x not in sequence')
|def length_hint(a, default=0): return len(a) if hasattr(a, '__len__') else default
|abs = abs
|def call(function, /, *args, **kwargs): return function(*args, **kwargs)
|class itemgetter:
| def __init__(self, item, *items): self._items = (item,) + items
| def __call__(self, value):
|  if len(self._items) == 1: return value[self._items[0]]
|  return tuple(value[item] for item in self._items)
| def __repr__(self): return 'operator.itemgetter(%s)' % ', '.join(map(repr, self._items))
|class attrgetter:
| def __init__(self, name, *names): self._names = (name,) + names
| def __call__(self, value):
|  def follow(name):
|   found = value
|   for part in name.split('.'): found = getattr(found, part)
|   return found
|  found = tuple(map(follow, self._names))
|  return found[0] if len(found) == 1 else found
|class methodcaller:
| def __init__(self, name, /, *args, **kwargs):
|  self._name, self._args, self._named = name, args, kwargs
| def __call__(self, value):
|  return getattr(value, self._name)(*self._args, **self._named)"

def heapqProgram : String :=
"def _up(heap, place):
| item = heap[place]
| while place > 0:
|  parent = (place - 1) >> 1
|  if not item < heap[parent]: break
|  heap[place] = heap[parent]
|  place = parent
| heap[place] = item
|def _down(heap, place):
| end, start = len(heap), place
| item = heap[place]
| child = 2 * place + 1
| while child < end:
|  if child + 1 < end and not heap[child] < heap[child + 1]: child += 1
|  heap[place] = heap[child]
|  place = child
|  child = 2 * place + 1
| heap[place] = item
| while place > start:
|  parent = (place - 1) >> 1
|  if not item < heap[parent]: break
|  heap[place] = heap[parent]
|  place = parent
| heap[place] = item
|def heappush(heap, item):
| heap.append(item)
| _up(heap, len(heap) - 1)
|def heappop(heap):
| last = heap.pop()
| if not heap: return last
| first, heap[0] = heap[0], last
| _down(heap, 0)
| return first
|def heapreplace(heap, item):
| first, heap[0] = heap[0], item
| _down(heap, 0)
| return first
|def heappushpop(heap, item):
| if heap and heap[0] < item: return heapreplace(heap, item)
| return item
|def heapify(heap):
| for place in reversed(range(len(heap) // 2)): _down(heap, place)
|def nsmallest(n, iterable, key=None): return sorted(iterable, key=key)[:max(n, 0)]
|def nlargest(n, iterable, key=None): return sorted(iterable, key=key, reverse=True)[:max(n, 0)]
|def merge(*iterables, key=None, reverse=False):
| items = [item for iterable in iterables for item in iterable]
| yield from sorted(items, key=key, reverse=reverse)"

def bisectProgram : String :=
"def bisect_right(a, x, lo=0, hi=None, *, key=None):
| hi = len(a) if hi is None else hi
| while lo < hi:
|  middle = (lo + hi) // 2
|  if x < (a[middle] if key is None else key(a[middle])): hi = middle
|  else: lo = middle + 1
| return lo
|def bisect_left(a, x, lo=0, hi=None, *, key=None):
| hi = len(a) if hi is None else hi
| while lo < hi:
|  middle = (lo + hi) // 2
|  if (a[middle] if key is None else key(a[middle])) < x: lo = middle + 1
|  else: hi = middle
| return lo
|def insort_right(a, x, lo=0, hi=None, *, key=None):
| a.insert(bisect_right(a, x if key is None else key(x), lo, hi, key=key), x)
|def insort_left(a, x, lo=0, hi=None, *, key=None):
| a.insert(bisect_left(a, x if key is None else key(x), lo, hi, key=key), x)
|bisect, insort = bisect_right, insort_right"

def enumProgram : String :=
"class auto:
| def __init__(self): self.value = None
|def unique(cls):
| twice = ['%s -> %s' % (name, member.name)
|  for name, member in cls.__members__.items() if name != member.name]
| if twice:
|  raise ValueError('duplicate values found in %r: %s' % (cls, ', '.join(twice)))
| return cls
|class nonmember:
| def __init__(self, value): self.value = value
|class member(nonmember): pass
|_plain = (type(lambda: 0), type(len), property, classmethod, staticmethod, type, nonmember)
|class Enum:
| _is_flag = False
| def __init_subclass__(cls, **named):
|  members = \x7b\x7d
|  values = []
|  if getattr(cls, '_member_map_', None):
|   raise TypeError('%r cannot extend %r' % (cls, cls.__bases__[-1]))
|  ignored = cls.__dict__.get('_ignore_', [])
|  for name, value in list(cls.__dict__.items()):
|   if name.startswith('_') or isinstance(value, _plain) or name in ignored: continue
|   if hasattr(type(value), '__get__'): continue
|   if isinstance(value, auto):
|    if value.value is None: value.value = cls._generate_next_value_(name, 1, len(members), values)
|    value = value.value
|   values.append(value)
|   cls._make_member(members, name, value)
|  if members:
|   cls._member_map_ = members
|   cls._member_names_ = [name for name, found in members.items()
|    if found._name_ == name]
| @classmethod
| def _make_member(cls, members, name, value):
|  given = value if isinstance(value, tuple) else (value,)
|  found = None
|  maker = cls.__dict__.get('__new__')
|  if maker is not None: found = getattr(maker, '__func__', maker)(cls, *given)
|  else: found = cls._bare(given)
|  if '_value_' not in found.__dict__: found._value_ = cls._value_of(value)
|  for other in members.values():
|   if other._value_ == found._value_:
|    members[name] = other
|    setattr(cls, name, other)
|    return
|  found._name_ = name
|  found._sort_order_ = len(members)
|  found.__objclass__ = cls
|  members[name] = found
|  setattr(cls, name, found)
|  if cls.__init__ is not Enum.__init__: found.__init__(*given)
| @classmethod
| def _bare(cls, given): return object.__new__(cls)
| @classmethod
| def _value_of(cls, value): return value
| def _generate_next_value_(name, start, count, values):
|  numbers = [value for value in values if isinstance(value, int)]
|  return max(numbers) + 1 if numbers else start
| def __init__(self, *given): pass
| def __new__(cls, value):
|  if isinstance(value, cls): return value
|  for found in cls.__dict__.get('_member_map_', \x7b\x7d).values():
|   if found._value_ == value: return found
|  found = cls._missing_(value)
|  if found is None: raise ValueError('%r is not a valid %s' % (value, cls.__qualname__))
|  return found
| @classmethod
| def _missing_(cls, value): return None
| def __class_iter__(cls): return iter([cls._member_map_[name] for name in cls._member_names_])
| def __class_reversed__(cls):
|  return iter([cls._member_map_[name] for name in cls._member_names_[::-1]])
| def __class_len__(cls): return len(cls._member_names_)
| def __class_contains__(cls, value):
|  if isinstance(value, Enum): return type(value) is cls
|  raise TypeError(\"unsupported operand type(s) for 'in': '%s' and '%s'\" % (
|   type(value).__qualname__, 'EnumType'))
| @classmethod
| def __class_getitem__(cls, name): return cls._member_map_[name]
| def __class_repr__(cls): return '<%s %r>' % ('flag' if cls._is_flag else 'enum', cls.__name__)
| def __class_getattr__(cls, name):
|  if name == '__members__': return dict(cls._member_map_)
|  raise AttributeError(\"type object %r has no attribute %r\" % (cls.__name__, name))
| @property
| def name(self): return self._name_
| @property
| def value(self): return self._value_
| def __repr__(self): return '<%s.%s: %r>' % (type(self).__name__, self._name_, self._value_)
| def __str__(self): return '%s.%s' % (type(self).__name__, self._name_)
| def __format__(self, form): return format(str(self), form)
| def __hash__(self): return hash(self._name_)
| def __reduce_ex__(self, kind): return type(self), (self._value_,)
| def __deepcopy__(self, memo): return self
| def __copy__(self): return self
|class IntEnum(int, Enum):
| @classmethod
| def _bare(cls, given): return int.__new__(cls, *given)
| @classmethod
| def _value_of(cls, value): return int(value)
| def __str__(self): return int.__repr__(self)
| def __format__(self, form): return int.__format__(self, form)
| __repr__ = Enum.__repr__
| __hash__ = int.__hash__
| __new__ = Enum.__new__
|class StrEnum(str, Enum):
| @classmethod
| def _bare(cls, given):
|  if not isinstance(given[0], str): raise TypeError('%r is not a string' % (given[0],))
|  return str.__new__(cls, *given)
| def _generate_next_value_(name, start, count, values): return name.lower()
| def __str__(self): return self._value_
| def __format__(self, form): return str.__format__(self._value_, form)
| __repr__ = Enum.__repr__
| __hash__ = str.__hash__
| __new__ = Enum.__new__
|class Flag(Enum):
| _is_flag = True
| def _generate_next_value_(name, start, count, values):
|  return 1 << max(value.bit_length() for value in values) if values else start
| @classmethod
| def _missing_(cls, value):
|  if not isinstance(value, int):
|   raise ValueError('%r is not a valid %s' % (value, cls.__qualname__))
|  every = 0
|  for found in cls: every |= found._value_
|  if value < 0: value &= every
|  if value & ~every and not issubclass(cls, int):
|   raise ValueError('%r is not a valid %s' % (value, cls.__qualname__))
|  found = cls._bare((value,))
|  found._value_ = value
|  found._name_ = '|'.join(
|   name for name in cls._member_names_
|   if cls._member_map_[name]._value_ and
|   cls._member_map_[name]._value_ & value == cls._member_map_[name]._value_) or None
|  return found
| def _other(self, other):
|  if isinstance(other, type(self)): return other._value_
|  if isinstance(self, int) and isinstance(other, int): return int(other)
|  return None
| def __or__(self, other):
|  value = self._other(other)
|  return NotImplemented if value is None else type(self)(self._value_ | value)
| def __and__(self, other):
|  value = self._other(other)
|  return NotImplemented if value is None else type(self)(self._value_ & value)
| def __xor__(self, other):
|  value = self._other(other)
|  return NotImplemented if value is None else type(self)(self._value_ ^ value)
| __ror__, __rand__, __rxor__ = __or__, __and__, __xor__
| def __invert__(self): return type(self)(~self._value_)
| def __bool__(self): return bool(self._value_)
| def __contains__(self, other): return other._value_ & self._value_ == other._value_
| def __iter__(self):
|  return iter([found for found in type(self)
|   if found._value_ and found._value_ & self._value_ == found._value_])
| def __len__(self):
|  return bin(self._value_).count('1')
| def __eq__(self, other): return isinstance(other, type(self)) and self._value_ == other._value_
| def __hash__(self): return hash(self._value_)
| def __repr__(self):
|  if self._name_ is None: return '<%s: %r>' % (type(self).__name__, self._value_)
|  return '<%s.%s: %r>' % (type(self).__name__, self._name_, self._value_)
| def __str__(self):
|  if self._name_ is None: return '%s(%r)' % (type(self).__name__, self._value_)
|  return '%s.%s' % (type(self).__name__, self._name_)
|class IntFlag(int, Flag):
| @classmethod
| def _bare(cls, given): return int.__new__(cls, *given)
| def __str__(self): return int.__repr__(self)
| def __format__(self, form): return int.__format__(self, form)
| __repr__ = Flag.__repr__
| __hash__ = int.__hash__
| __eq__ = int.__eq__
| __new__ = Enum.__new__
| __or__, __and__, __xor__ = Flag.__or__, Flag.__and__, Flag.__xor__
| __ror__, __rand__, __rxor__ = Flag.__ror__, Flag.__rand__, Flag.__rxor__
| __invert__, __bool__ = Flag.__invert__, Flag.__bool__
|EnumMeta = EnumType = type(Enum)"

def abcProgram : String :=
"def abstractmethod(function):
| function.__isabstractmethod__ = True
| return function
|abstractproperty = property
|def _is_abstract(value):
| if isinstance(value, property):
|  return any(getattr(function, '__isabstractmethod__', False)
|   for function in (value.fget, value.fset, value.fdel) if function is not None)
| value = getattr(value, '__func__', value)
| return getattr(value, '__isabstractmethod__', False)
|class ABCMeta(type): pass
|class ABC:
| __abstractmethods__ = ()
| def __init_subclass__(cls, **named):
|  names = set()
|  for base in cls.__mro__:
|   names.update(name for name, value in base.__dict__.items() if _is_abstract(value))
|  def own(name):
|   for base in cls.__mro__:
|    if name in base.__dict__: return base.__dict__[name]
|  left = [name for name in names if _is_abstract(own(name))]
|  cls.__abstractmethods__ = tuple(sorted(left))
|  super().__init_subclass__(**named)
| def __instancecheck_of__(cls, value):
|  return isinstance(value, tuple(cls.__dict__.get('_registered', ())))
| def __subclasscheck_of__(cls, other):
|  return issubclass(other, tuple(cls.__dict__.get('_registered', ())))
| @classmethod
| def register(cls, other):
|  cls._registered = tuple(cls.__dict__.get('_registered', ())) + (other,)
|  return other"

def typingProgram : String :=
"import collections.abc as _abc
|from abc import ABC as _ABC
|class _Form:
| def __init__(self, name, parts=None, origin=None):
|  self._name, self._parts, self.__origin__ = name, parts, origin
|  self.__args__ = () if parts is None else parts
| def __getitem__(self, parts):
|  parts = parts if isinstance(parts, tuple) else (parts,)
|  if self._name == 'Optional': return _union((parts[0], None))
|  if self._name == 'Union': return _union(parts)
|  return _Form(self._name, parts, self.__origin__)
| def __call__(self, *args, **named):
|  if self.__origin__ is None: raise TypeError('Cannot instantiate typing.%s' % self._name)
|  return self.__origin__(*args, **named)
| def __or__(self, other): return _union((self, other))
| def __ror__(self, other): return _union((other, self))
| def __eq__(self, other):
|  return (isinstance(other, _Form) and self._name == other._name
|   and self._parts == other._parts)
| def __hash__(self):
|  return hash((self._name, self._parts))
| def __repr__(self):
|  if self._parts is None: return 'typing.' + self._name
|  if self._name == 'Union' and len(self._parts) == 2 and _none in self._parts:
|   first = [part for part in self._parts if part is not _none][0]
|   return 'typing.Optional[%s]' % _shown(first)
|  return 'typing.%s[%s]' % (self._name, ', '.join(map(_shown, self._parts)))
|_none = type(None)
|def _union(parts):
| found = []
| for part in parts:
|  part = _none if part is None else part
|  for inner in part._parts if isinstance(part, _Form) and part._name == 'Union' else (part,):
|   if inner not in found: found.append(inner)
| return found[0] if len(found) == 1 else _Form('Union', tuple(found))
|def _shown(part):
| if isinstance(part, list): return '[%s]' % ', '.join(map(_shown, part))
| if part is ...: return '...'
| if isinstance(part, type):
|  if part.__module__ == 'builtins': return part.__qualname__
|  return '%s.%s' % (part.__module__, part.__qualname__)
| return repr(part)
|for _name in ('Any Union Optional Callable ClassVar Final Literal Annotated NoReturn Never Self '
|  'Concatenate TypeAlias TypeGuard LiteralString Required NotRequired Unpack AnyStr Text '
|  'SupportsInt SupportsFloat SupportsIndex SupportsAbs Hashable Sized').split():
| globals()[_name] = _Form(_name)
|for _name, _origin in (('List', list), ('Dict', dict), ('Set', set), ('FrozenSet', frozenset),
|  ('Tuple', tuple), ('Type', type), ('Iterable', _abc.Iterable),
|  ('Iterator', _abc.Iterator), ('Sequence', _abc.Sequence), ('Mapping', _abc.Mapping),
|  ('MutableMapping', _abc.MutableMapping), ('MutableSequence', _abc.MutableSequence),
|  ('Generator', _abc.Generator), ('Collection', _abc.Collection), ('IO', None),
|  ('DefaultDict', None), ('OrderedDict', None), ('Counter', None), ('Deque', None),
|  ('Awaitable', None), ('Coroutine', None), ('AsyncIterator', None), ('Pattern', None),
|  ('Match', None), ('TextIO', None), ('BinaryIO', None), ('ChainMap', None)):
| globals()[_name] = _Form(_name, None, _origin)
|class TypeVar:
| def __init__(self, name, *constraints, bound=None, covariant=False, contravariant=False):
|  self.__name__, self.__bound__, self.__constraints__ = name, bound, constraints
|  self._mark = '+' if covariant else '-' if contravariant else '~'
| def __repr__(self): return self._mark + self.__name__
| def __or__(self, other): return _union((self, other))
|ParamSpec = TypeVarTuple = TypeVar
|class Generic:
| @classmethod
| def __class_getitem__(cls, parts): return cls
|class Protocol(_ABC):
| @classmethod
| def __class_getitem__(cls, parts): return cls
| def __instancecheck_of__(cls, value):
|  names = [name for name in cls.__dict__ if not name.startswith('_')]
|  return bool(names) and all(hasattr(value, name) for name in names)
|def runtime_checkable(cls): return cls
|final = override = no_type_check = overload = runtime_checkable
|def cast(kind, value): return value
|def reveal_type(value): return value
|def assert_never(value):
| raise AssertionError('Expected code to be unreachable, but got: %r' % (value,))
|def get_type_hints(value): return dict(getattr(value, '__annotations__', \x7b\x7d))
|def get_origin(kind): return getattr(kind, '__origin__', None)
|def get_args(kind): return getattr(kind, '__args__', ())
|TYPE_CHECKING = False
|class NamedTuple:
| def __new__(cls, typename, fields=(), **named):
|  from collections import namedtuple
|  return namedtuple(typename, [name for name, _ in fields])
| def __init_subclass__(cls, **named):
|  from collections import namedtuple
|  names = list(cls.__dict__.get('__annotations__', \x7b\x7d))
|  usual = [getattr(cls, name) for name in names if name in cls.__dict__]
|  made = namedtuple(cls.__name__, names, defaults=usual)
|  cls._row = made
|  for name, value in list(made.__dict__.items()):
|   if name not in cls.__dict__ or name in names: setattr(cls, name, value)
|class TypedDict(dict):
| def __init_subclass__(cls, **named): pass
|def NewType(name, kind):
| return lambda value: value"

def dataclassesProgram : String :=
"class _Missing:
| def __repr__(self): return '<dataclasses._MISSING_TYPE object>'
|MISSING, KW_ONLY = _Missing(), _Missing()
|class Field:
| def __init__(self, default, default_factory, init, repr, hash, compare, metadata, kw_only):
|  self.name = self.type = None
|  self.default, self.default_factory, self.init = default, default_factory, init
|  self.repr, self.hash, self.compare = repr, hash, compare
|  self.metadata, self.kw_only = metadata or \x7b\x7d, kw_only
| def __repr__(self):
|  return 'Field(name=%r,type=%r,default=%r)' % (self.name, self.type, self.default)
|def field(*, default=MISSING, default_factory=MISSING, init=True, repr=True, hash=None,
|  compare=True, metadata=None, kw_only=MISSING):
| if default is not MISSING and default_factory is not MISSING:
|  raise ValueError('cannot specify both default and default_factory')
| return Field(default, default_factory, init, repr, hash, compare, metadata, kw_only)
|class FrozenInstanceError(AttributeError): pass
|class InitVar:
| def __class_getitem__(cls, kind): return cls
|def _is_class_part(kind):
| shown = kind if isinstance(kind, str) else repr(kind)
| return shown.startswith(('typing.ClassVar', 'ClassVar'))
|def _own_fields(cls, kw_only):
| found = []
| for name, kind in cls.__dict__.get('__annotations__', \x7b\x7d).items():
|  if kind is KW_ONLY:
|   kw_only = True
|   continue
|  if _is_class_part(kind): continue
|  value = cls.__dict__.get(name, MISSING)
|  one = value if isinstance(value, Field) else field(default=value)
|  one.name, one.type = name, kind
|  if one.kw_only is MISSING: one.kw_only = kw_only
|  one._is_given = kind is InitVar
|  if one.default is not MISSING and type(one.default).__hash__ is None:
|   raise ValueError('mutable default %s for field %s is not allowed: '
|    'use default_factory' % (type(one.default), name))
|  if isinstance(value, Field):
|   if one.default is MISSING: delattr(cls, name)
|   else: setattr(cls, name, one.default)
|  found.append(one)
| return found
|def dataclass(cls=None, /, *, init=True, repr=True, eq=True, order=False, unsafe_hash=False,
|  frozen=False, match_args=True, kw_only=False, slots=False, weakref_slot=False):
| def change(cls):
|  return _changed(cls, init, repr, eq, order, unsafe_hash, frozen, kw_only)
| return change if cls is None else change(cls)
|def _changed(cls, init, shown, eq, order, unsafe_hash, frozen, kw_only):
| table = \x7b\x7d
| for base in cls.__mro__[-1:0:-1]:
|  for one in base.__dict__.get('__dataclass_fields__', \x7b\x7d).values(): table[one.name] = one
| for one in _own_fields(cls, kw_only): table[one.name] = one
| cls.__dataclass_fields__ = table
| every = list(table.values())
| if init and '__init__' not in cls.__dict__: cls.__init__ = _starter(cls, every, frozen)
| if '__match_args__' not in cls.__dict__:
|  cls.__match_args__ = tuple(one.name for one in every if one.init and not one.kw_only)
| kept = [one for one in every if not one._is_given]
| if shown and '__repr__' not in cls.__dict__:
|  def __repr__(self):
|   return '%s(%s)' % (type(self).__qualname__, ', '.join(
|    '%s=%r' % (one.name, getattr(self, one.name)) for one in kept if one.repr))
|  cls.__repr__ = __repr__
| def row(self): return tuple(getattr(self, one.name) for one in kept if one.compare)
| if eq and '__eq__' not in cls.__dict__:
|  def __eq__(self, other):
|   if type(other) is not type(self): return NotImplemented
|   return row(self) == row(other)
|  cls.__eq__ = __eq__
|  if frozen or unsafe_hash: cls.__hash__ = lambda self: hash(row(self))
|  elif '__hash__' not in cls.__dict__: cls.__hash__ = None
| if order:
|  def compared(function):
|   def compare(self, other):
|    if type(other) is not type(self): return NotImplemented
|    return function(row(self), row(other))
|   return compare
|  cls.__lt__ = compared(lambda a, b: a < b)
|  cls.__le__ = compared(lambda a, b: a <= b)
|  cls.__gt__ = compared(lambda a, b: a > b)
|  cls.__ge__ = compared(lambda a, b: a >= b)
| if frozen:
|  def __setattr__(self, name, value): raise FrozenInstanceError('cannot assign to field %r' % name)
|  def __delattr__(self, name): raise FrozenInstanceError('cannot delete field %r' % name)
|  cls.__setattr__, cls.__delattr__ = __setattr__, __delattr__
| return cls
|def _starter(cls, every, frozen):
| places = \x7b'_fields': \x7bone.name: one for one in every\x7d, '_missing': MISSING,
|  '_put': object.__setattr__\x7d
| first, last, lines, given, before = [], [], [], [], None
| for one in every:
|  name = one.name
|  has_usual = one.default is not MISSING or one.default_factory is not MISSING
|  if one.init:
|   if not has_usual and not one.kw_only and before:
|    raise TypeError('non-default argument %r follows default argument' % name)
|   if not one.kw_only and has_usual: before = name
|   text = name
|   if one.default_factory is not MISSING: text += '=_missing'
|   elif has_usual: text += '=_fields[%r].default' % name
|   (last if one.kw_only else first).append(text)
|  if one._is_given:
|   given.append(name)
|   continue
|  if one.default_factory is not MISSING:
|   made = '_fields[%r].default_factory()' % name
|   value = '%s if %s is _missing else %s' % (made, name, name) if one.init else made
|  elif one.init: value = name
|  else: continue
|  if frozen: lines.append('    _put(self, %r, %s)' % (name, value))
|  else: lines.append('    self.%s = %s' % (name, value))
| if hasattr(cls, '__post_init__'): lines.append('    self.__post_init__(%s)' % ', '.join(given))
| if last: first.append('*')
| head = ', '.join(['self'] + first + last)
| exec('def __init__(%s):\\n%s' % (head, '\\n'.join(lines) or '    pass'), places)
| made = places['__init__']
| made.__qualname__ = cls.__qualname__ + '.__init__'
| return made
|def is_dataclass(value):
| return hasattr(value if isinstance(value, type) else type(value), '__dataclass_fields__')
|def fields(value):
| found = getattr(value, '__dataclass_fields__', None)
| if found is None: raise TypeError('must be called with a dataclass type or instance')
| return tuple(one for one in found.values() if not one._is_given)
|def _plain(value, make):
| if hasattr(type(value), '__dataclass_fields__'):
|  return make([(one.name, _plain(getattr(value, one.name), make)) for one in fields(value)])
| if isinstance(value, tuple) and hasattr(value, '_fields'):
|  return type(value)(*[_plain(item, make) for item in value])
| if isinstance(value, (list, tuple)): return type(value)(_plain(item, make) for item in value)
| if isinstance(value, dict):
|  return \x7b_plain(key, make): _plain(item, make) for key, item in value.items()\x7d
| return value
|def asdict(value, *, dict_factory=dict): return _plain(value, dict_factory)
|def astuple(value, *, tuple_factory=tuple):
| return _plain(value, lambda pairs: tuple_factory(item for _, item in pairs))
|def replace(value, /, **changes):
| for one in fields(value):
|  if one.init and one.name not in changes: changes[one.name] = getattr(value, one.name)
| return type(value)(**changes)
|def make_dataclass(name, fields, *, bases=(), namespace=None, **named):
| table = dict(namespace or \x7b\x7d)
| kinds = \x7b\x7d
| for one in fields:
|  if isinstance(one, str): one = one, 'typing.Any'
|  kinds[one[0]] = one[1]
|  if len(one) > 2: table[one[0]] = one[2]
| table['__annotations__'] = kinds
| return dataclass(type(name, tuple(bases), table), **named)"

def typesProgram : String :=
"from _types import *
|from _types import NoneType, NotImplementedType
|FunctionType = LambdaType = type(lambda: 0)
|BuiltinFunctionType = BuiltinMethodType = type(len)
|ModuleType = type(__import__('sys'))
|GeneratorType = type((lambda: (yield))())
|class _Probe:
| def method(self): pass
|MethodType = type(_Probe().method)
|EllipsisType = type(...)
|class SimpleNamespace:
| def __init__(self, /, **named): self.__dict__.update(named)
| def __repr__(self):
|  return 'namespace(%s)' % ', '.join('%s=%r' % pair for pair in self.__dict__.items())
| def __eq__(self, other):
|  return isinstance(other, SimpleNamespace) and self.__dict__ == other.__dict__
|class MappingProxyType:
| def __init__(self, table): self._table = table
| def __getitem__(self, key): return self._table[key]
| def __getattr__(self, name):
|  if name in ('get', 'keys', 'values', 'items', 'copy'): return getattr(self._table, name)
|  raise AttributeError(\"'mappingproxy' object has no attribute %r\" % name)
| def __iter__(self): return iter(self._table)
| def __len__(self): return len(self._table)
| def __contains__(self, key): return key in self._table
| def __repr__(self): return 'mappingproxy(%r)' % self._table
|def new_class(name, bases=(), kwds=None, exec_body=None):
| table = \x7b\x7d
| if exec_body is not None: exec_body(table)
| return type(name, tuple(bases), table)"

def copyProgram : String :=
"class Error(Exception):
| pass
|error = Error
|_plain = (type(None), int, float, bool, str, bytes, type, range, type(len), type(lambda: 0))
|def _bare(value): return value.__class__.__new__(value.__class__)
|def copy(value):
| if isinstance(value, _plain): return value
| kind = type(value)
| if kind in (list, dict, set, bytearray): return value.copy()
| if kind in (tuple, frozenset): return value
| if hasattr(kind, '__copy__'): return value.__copy__()
| if isinstance(value, (list, set, tuple)): found = kind(value)
| elif isinstance(value, dict):
|  found = kind.__new__(kind)
|  for key, item in value.items(): dict.__setitem__(found, key, item)
| else: found = kind.__new__(kind)
| for name, item in getattr(value, '__dict__', \x7b\x7d).items():
|  object.__setattr__(found, name, item)
| return found
|def deepcopy(value, memo=None):
| memo = \x7b\x7d if memo is None else memo
| if isinstance(value, _plain) and not isinstance(value, (int, str)): return value
| kind = type(value)
| if kind in (int, str, bool): return value
| if id(value) in memo: return memo[id(value)]
| if hasattr(kind, '__deepcopy__'):
|  found = memo[id(value)] = value.__deepcopy__(memo)
|  return found
| if kind is list:
|  found = memo[id(value)] = []
|  for item in value: found.append(deepcopy(item, memo))
|  return found
| if kind is dict:
|  found = memo[id(value)] = \x7b\x7d
|  for key, item in value.items(): found[deepcopy(key, memo)] = deepcopy(item, memo)
|  return found
| if kind in (tuple, set, frozenset):
|  found = memo[id(value)] = kind([deepcopy(item, memo) for item in value])
|  return found
| if isinstance(value, tuple): found = tuple.__new__(kind, [deepcopy(item, memo) for item in value])
| else: found = kind.__new__(kind)
| memo[id(value)] = found
| if isinstance(value, list): found.extend([deepcopy(item, memo) for item in value])
| elif isinstance(value, dict):
|  for key, item in value.items():
|   dict.__setitem__(found, deepcopy(key, memo), deepcopy(item, memo))
| elif isinstance(value, set): found.update([deepcopy(item, memo) for item in value])
| for name, item in getattr(value, '__dict__', \x7b\x7d).items():
|  object.__setattr__(found, name, deepcopy(item, memo))
| return found"

def contextlibProgram : String :=
"import sys as _sys
|from functools import wraps as _wraps
|class ContextDecorator:
| def __call__(self, function):
|  @_wraps(function)
|  def inner(*args, **named):
|   with self._recreate(): return function(*args, **named)
|  return inner
| def _recreate(self): return self
|class AbstractContextManager:
| def __enter__(self): return self
| def __exit__(self, *rest): return None
|class _Managed(ContextDecorator):
| def __init__(self, function, args, named):
|  self._made = function, args, named
|  self._items = function(*args, **named)
| def _recreate(self): return _Managed(*self._made)
| def __enter__(self):
|  try: return next(self._items)
|  except StopIteration: raise RuntimeError(\"generator didn't yield\") from None
| def __exit__(self, kind, value, trace):
|  if kind is None:
|   try: next(self._items)
|   except StopIteration: return False
|   raise RuntimeError(\"generator didn't stop\")
|  if value is None: value = kind()
|  try: self._items.throw(value)
|  except StopIteration as fault: return fault is not value
|  except BaseException as fault:
|   if fault is not value: raise
|   return False
|  raise RuntimeError(\"generator didn't stop after throw()\")
|def contextmanager(function):
| @_wraps(function)
| def helper(*args, **named): return _Managed(function, args, named)
| return helper
|class suppress(AbstractContextManager):
| def __init__(self, *types): self._types = types
| def __exit__(self, kind, value, trace): return kind is not None and issubclass(kind, self._types)
|class closing(AbstractContextManager):
| def __init__(self, thing): self.thing = thing
| def __enter__(self): return self.thing
| def __exit__(self, *rest): self.thing.close()
|class nullcontext(AbstractContextManager):
| def __init__(self, enter_result=None): self.enter_result = enter_result
| def __enter__(self): return self.enter_result
|class _Redirect:
| def __init__(self, target): self._target, self._before = target, []
| def __enter__(self):
|  self._before.append(getattr(_sys, self._name))
|  setattr(_sys, self._name, self._target)
|  return self._target
| def __exit__(self, *rest): setattr(_sys, self._name, self._before.pop())
|class redirect_stdout(_Redirect): _name = 'stdout'
|class redirect_stderr(_Redirect): _name = 'stderr'
|class chdir(AbstractContextManager):
| def __init__(self, path): self.path, self._before = path, []
| def __enter__(self):
|  import os
|  self._before.append(os.getcwd())
|  os.chdir(self.path)
| def __exit__(self, *rest):
|  import os
|  os.chdir(self._before.pop())
|class ExitStack:
| def __init__(self): self._exits = []
| def enter_context(self, manager):
|  value = manager.__enter__()
|  self.push(manager)
|  return value
| def push(self, manager):
|  if hasattr(manager, '__exit__'):
|   self._exits.append(lambda *rest: type(manager).__exit__(manager, *rest))
|  else: self._exits.append(manager)
|  return manager
| def callback(self, function, /, *args, **named):
|  self._exits.append(lambda *rest: function(*args, **named) and False)
|  return function
| def pop_all(self):
|  found = type(self)()
|  found._exits, self._exits = self._exits, []
|  return found
| def close(self): self.__exit__(None, None, None)
| def __enter__(self): return self
| def __exit__(self, *rest):
|  had, pending = rest[1] is not None, rest[1]
|  while self._exits:
|   leave = self._exits.pop()
|   try:
|    if pending is None: leave(None, None, None)
|    elif leave(type(pending), pending, None): pending = None
|   except BaseException as fault: pending = fault
|  if pending is not None and pending is not rest[1]: raise pending
|  return had and pending is None"

def keywordProgram : String :=
"kwlist = ('False None True and as assert async await break class continue def del elif else '
| 'except finally for from global if import in is lambda nonlocal not or pass raise '
| 'return try while with yield').split()
|softkwlist = ['_', 'case', 'match']
|iskeyword, issoftkeyword = set(kwlist).__contains__, set(softkwlist).__contains__"

def systemProgram : String :=
"class _Version(tuple):
| major = property(lambda self: self[0])
| minor = property(lambda self: self[1])
| micro = property(lambda self: self[2])
| releaselevel = property(lambda self: self[3])
| serial = property(lambda self: self[4])
| def __repr__(self):
|  return ('sys.version_info(major=%r, minor=%r, micro=%r, releaselevel=%r, serial=%r)'
|   % tuple(self))
|version_info = _Version((3, 11, 2, 'final', 0))"

end BaseLanguage.Shell.Objects
