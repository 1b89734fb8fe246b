namespace BaseLanguage.Shell.Objects

/-!
# Packages about the system

These packages are about files, processes and other programs.
-/

def osProgram : String :=
"import sys
|import posixpath as path
|sys.modules['os.path'] = path
|name, sep, pathsep, linesep, curdir, pardir = 'posix', '/', ':', '\\n', '.', '..'
|extsep, altsep, defpath, devnull = '.', None, '/bin:/usr/bin', '/dev/null'
|error = OSError
|F_OK, R_OK, W_OK, X_OK = 0, 4, 2, 1
|O_RDONLY, O_WRONLY, O_RDWR, O_CREAT, O_EXCL = 0, 1, 2, 64, 128
|O_TRUNC, O_APPEND, O_NONBLOCK, O_CLOEXEC = 512, 1024, 2048, 524288
|SEEK_SET, SEEK_CUR, SEEK_END = 0, 1, 2
|EX_OK, EX_USAGE, EX_DATAERR, EX_NOINPUT = 0, 64, 65, 66
|EX_SOFTWARE, EX_OSERR, EX_CONFIG = 70, 71, 78
|WNOHANG, P_WAIT, P_NOWAIT = 1, 0, 1
|class PathLike:
| def __instancecheck_of__(cls, value):
|  return cls is PathLike and hasattr(type(value), '__fspath__')
|class stat_result(tuple):
| st_mode = property(lambda self: self[0])
| st_ino = property(lambda self: self[1])
| st_dev = property(lambda self: self[2])
| st_nlink = property(lambda self: self[3])
| st_uid = property(lambda self: self[4])
| st_gid = property(lambda self: self[5])
| st_size = property(lambda self: self[6])
| st_atime = property(lambda self: self._times[0] / 1e9)
| st_mtime = property(lambda self: self._times[1] / 1e9)
| st_ctime = property(lambda self: self._times[2] / 1e9)
| st_atime_ns = property(lambda self: self._times[0])
| st_mtime_ns = property(lambda self: self._times[1])
| st_ctime_ns = property(lambda self: self._times[2])
| st_blocks = property(lambda self: self._blocks)
| st_blksize = property(lambda self: 4096)
| def __repr__(self):
|  names = 'mode ino dev nlink uid gid size atime mtime ctime'.split()
|  return 'os.stat_result(%s)' % ', '.join(
|   'st_%s=%r' % (name, value) for name, value in zip(names, self))
|def _facts(row):
| found = stat_result(row[:7] + tuple(time // 1000000000 for time in row[7:10]))
| found._times, found._blocks = row[7:10], row[10]
| return found
|def stat(path, *, dir_fd=None, follow_symlinks=True): return _facts(_stat(path, follow_symlinks))
|def lstat(path, *, dir_fd=None): return _facts(_stat(path, False))
|def fstat(fd): return _facts(_stat(fd, True))
|class _Environ:
| def __init__(self, data): self._data = data
| def _check(self, value):
|  if not isinstance(value, str): raise TypeError('str expected, not %s' % type(value).__name__)
|  return value
| def __getitem__(self, key):
|  try: return self._data[self._check(key)]
|  except KeyError: raise KeyError(key) from None
| def __setitem__(self, key, value):
|  key, value = self._check(key), self._check(value)
|  self._data[key] = value
| def __delitem__(self, key):
|  try: del self._data[self._check(key)]
|  except KeyError: raise KeyError(key) from None
| def __iter__(self): return iter(list(self._data))
| def __len__(self): return len(self._data)
| def __contains__(self, key): return self._check(key) in self._data
| def __repr__(self):
|  return 'environ(\x7b%s\x7d)' % ', '.join(
|   '%r: %r' % pair for pair in self._data.items())
| def __eq__(self, other):
|  return self._data == (other._data if isinstance(other, _Environ) else other)
| def __or__(self, other): return \x7b**self._data, **dict(other)\x7d
| def __ior__(self, other):
|  self.update(other)
|  return self
| def keys(self): return self._data.keys()
| def values(self): return self._data.values()
| def items(self): return self._data.items()
| def get(self, key, default=None): return self._data.get(self._check(key), default)
| def pop(self, key, *default): return self._data.pop(key, *default)
| def popitem(self): return self._data.popitem()
| def setdefault(self, key, value=None):
|  if key not in self: self[key] = value
|  return self[key]
| def update(self, *others, **named):
|  for key, value in dict(*others, **named).items(): self[key] = value
| def clear(self): self._data.clear()
| def copy(self): return dict(self._data)
|environ = _Environ(_environment)
|def getenv(key, default=None): return environ.get(key, default)
|def putenv(key, value): _environment[key] = value
|def unsetenv(key): _environment.pop(key, None)
|def fsencode(name):
| name = fspath(name)
| return name.encode('utf-8', 'surrogateescape') if isinstance(name, str) else name
|def fsdecode(name):
| name = fspath(name)
| return name.decode('utf-8', 'surrogateescape') if isinstance(name, bytes) else name
|environb = \x7bfsencode(key): fsencode(value) for key, value in _environment.items()\x7d
|def getcwdb(): return fsencode(getcwd())
|unlink = remove
|def replace(src, dst): return rename(src, dst)
|def makedirs(name, mode=0o777, exist_ok=False):
| head, tail = path.split(name)
| if not tail: head, tail = path.split(head)
| if head and tail and not path.exists(head):
|  try: makedirs(head, exist_ok=exist_ok)
|  except FileExistsError: pass
|  if tail == curdir: return
| try: mkdir(name, mode)
| except OSError:
|  if not exist_ok or not path.isdir(name): raise
|def removedirs(name):
| rmdir(name)
| head, tail = path.split(name)
| if not tail: head, tail = path.split(head)
| while head and tail:
|  try: rmdir(head)
|  except OSError: break
|  head, tail = path.split(head)
|def renames(old, new):
| head = path.dirname(new)
| if head and not path.exists(head): makedirs(head)
| rename(old, new)
| head = path.dirname(old)
| if head:
|  try: removedirs(head)
|  except OSError: pass
|class DirEntry:
| def __init__(self, folder, name):
|  self.name = name
|  self.path = path.join(folder, name)
| def stat(self, *, follow_symlinks=True):
|  return stat(self.path) if follow_symlinks else lstat(self.path)
| def inode(self): return lstat(self.path).st_ino
| def _is_kind(self, kind, follows): return path._is_kind(self.path, kind, follows)
| def is_dir(self, *, follow_symlinks=True): return self._is_kind(0o040000, follow_symlinks)
| def is_file(self, *, follow_symlinks=True): return self._is_kind(0o100000, follow_symlinks)
| def is_symlink(self): return self._is_kind(0o120000, False)
| def __fspath__(self): return self.path
| def __repr__(self): return '<DirEntry %r>' % self.name
|class _Scan:
| def __init__(self, entries): self._entries = iter(entries)
| def __iter__(self): return self
| def __next__(self): return next(self._entries)
| def __enter__(self): return self
| def __exit__(self, *rest): self.close()
| def close(self): self._entries = iter(())
|def scandir(path='.'):
| folder = fspath(path)
| return _Scan([DirEntry(folder, name) for name in listdir(folder)])
|def walk(top, topdown=True, onerror=None, followlinks=False):
| top = fspath(top)
| try: names = listdir(top)
| except OSError as fault:
|  if onerror is not None: onerror(fault)
|  return
| folders = [name for name in names if path.isdir(path.join(top, name))]
| files = [name for name in names if name not in folders]
| if topdown: yield top, folders, files
| for name in folders:
|  inner = path.join(top, name)
|  if followlinks or not path.islink(inner): yield from walk(inner, topdown, onerror, followlinks)
| if not topdown: yield top, folders, files
|def system(command): return _system(command, _environment)
|def waitstatus_to_exitcode(status): return -(status & 127) if status & 127 else status >> 8
|def WEXITSTATUS(status): return status >> 8 & 255
|def WIFEXITED(status): return status & 127 == 0
|def WIFSIGNALED(status): return status & 127 not in (0, 127)
|def WTERMSIG(status): return status & 127
|class _Pipe:
| def __init__(self, stream, child): self._stream, self._child = stream, child
| def close(self):
|  self._stream.close()
|  code = self._child.wait()
|  if code == 0: return None
|  return code if code < 0 else code << 8
| def __enter__(self): return self
| def __exit__(self, *rest): self.close()
| def __iter__(self): return iter(self._stream)
| def __getattr__(self, name): return getattr(self._stream, name)
|def popen(cmd, mode='r', buffering=-1):
| if not isinstance(cmd, str): raise TypeError('invalid cmd type (%s, expected string)' % type(cmd))
| if mode not in ('r', 'w'): raise ValueError('invalid mode %r' % mode)
| import subprocess
| if mode == 'r':
|  child = subprocess.Popen(cmd, shell=True, text=True, stdout=subprocess.PIPE)
|  return _Pipe(child.stdout, child)
| child = subprocess.Popen(cmd, shell=True, text=True, stdin=subprocess.PIPE)
| return _Pipe(child.stdin, child)
|def fdopen(fd, mode='r', *args, **kwargs):
| if not isinstance(fd, int): raise TypeError('invalid fd type (%s, expected integer)' % type(fd))
| return _open_stream(fd, mode, *args, **kwargs)
|def _run_instead(file, words, env):
| import subprocess
| try: child = subprocess.Popen([file] + list(words)[1:], env=env)
| except OSError as fault: raise OSError(fault.errno, fault.strerror) from None
| code = child.wait()
| if code < 0: kill(getpid(), -code)
| _exit(code)
|def execv(path, args): _run_instead(path, args, None)
|def execve(path, args, env): _run_instead(path, args, env)
|def execvp(file, args): _run_instead(file, args, None)
|def execvpe(file, args, env): _run_instead(file, args, env)
|def execl(file, *args): _run_instead(file, args, None)
|def execlp(file, *args): _run_instead(file, args, None)
|def spawnvp(mode, file, args):
| import subprocess
| return subprocess.call([file] + list(args)[1:])
|spawnv = spawnvp
|def spawnlp(mode, file, *args): return spawnvp(mode, file, args)
|spawnl = spawnlp
|getuid = geteuid = getgid = getegid = _nobody
|def getgroups(): return [0]
|def getpgid(pid): return getpgrp()
|def getsid(pid): return getpgrp()
|def get_exec_path(env=None):
| return (environ if env is None else env).get('PATH', defpath).split(':')
|def sched_getaffinity(pid): return set(range(cpu_count()))
|def getloadavg(): return 0.0, 0.0, 0.0
|class uname_result(tuple):
| sysname = property(lambda self: self[0])
| nodename = property(lambda self: self[1])
| release = property(lambda self: self[2])
| version = property(lambda self: self[3])
| machine = property(lambda self: self[4])
|def uname():
| import subprocess
| def ask(option): return subprocess.getoutput('uname ' + option)
| return uname_result(ask('-' + letter) for letter in 'snrvm')
|class terminal_size(tuple):
| columns = property(lambda self: self[0])
| lines = property(lambda self: self[1])
| def __repr__(self): return 'os.terminal_size(columns=%r, lines=%r)' % tuple(self)
|def get_terminal_size(fd=1): raise OSError(25, 'Inappropriate ioctl for device')
|def fsync(fd): return None
|def sync(): return None
|def lseek(fd, position, how): raise OSError(29, 'Illegal seek')
|def dup(fd):
| fresh = 3
| while True:
|  try: fstat(fresh)
|  except OSError: return dup2(fd, fresh)
|  fresh += 1
|def nice(increment): return 0
|def times(): return 0.02, 0.0, 0.0, 0.0, 0.0
|def chown(path, uid, gid): stat(path)
|lchown = chown
|def posix_spawn(path, argv, env):
| import subprocess
| return subprocess.Popen([path] + list(argv)[1:], env=env).pid
|import builtins as _builtins
|_open_stream = _builtins.open
|def _utime(native):
| def utime(path, times=None, *, ns=None):
|  if ns is not None: moment = ns[1]
|  elif times is not None: moment = int(times[1] * 1000000000)
|  else:
|   import time
|   moment = time.time_ns()
|  native(path, moment)
| return utime
|utime = _utime(utime)"

def posixpathProgram : String :=
"import os as _os
|curdir, pardir, extsep, sep, pathsep = '.', '..', '.', '/', ':'
|defpath, altsep, devnull = '/bin:/usr/bin', None, '/dev/null'
|def fspath(path): return _os.fspath(path)
|def _slash(path): return b'/' if isinstance(path, bytes) else '/'
|def normcase(path): return fspath(path)
|def isabs(path):
| path = fspath(path)
| return path.startswith(_slash(path))
|def join(first, *others):
| path = fspath(first)
| slash = _slash(path)
| for other in others:
|  try: other = fspath(other)
|  except TypeError:
|   raise TypeError('join() argument must be str, bytes, or os.PathLike object, not '
|    + repr(type(other).__name__)) from None
|  if isinstance(other, bytes) != isinstance(path, bytes):
|   raise TypeError(\"Can't mix strings and bytes in path components\")
|  if other.startswith(slash): path = other
|  elif not path or path.endswith(slash): path += other
|  else: path += slash + other
| return path
|def split(path):
| path = fspath(path)
| slash = _slash(path)
| place = path.rfind(slash) + 1
| head, tail = path[:place], path[place:]
| if head and head != slash * len(head): head = head.rstrip(slash)
| return head, tail
|def basename(path):
| path = fspath(path)
| return path[path.rfind(_slash(path)) + 1:]
|def dirname(path): return split(path)[0]
|def splitext(path):
| path = fspath(path)
| dot = b'.' if isinstance(path, bytes) else '.'
| name = path.rfind(_slash(path)) + 1
| place = path.rfind(dot)
| if place > name and path[name:place].strip(dot): return path[:place], path[place:]
| return path, path[:0]
|def splitdrive(path):
| path = fspath(path)
| return path[:0], path
|def normpath(path):
| path = fspath(path)
| slash = _slash(path)
| dot = b'.' if isinstance(path, bytes) else '.'
| if not path: return dot
| start = path[:0]
| if path.startswith(slash):
|  start = slash
|  if path.startswith(slash * 2) and not path.startswith(slash * 3): start = slash * 2
| parts = []
| for part in path.split(slash):
|  if not part or part == dot: continue
|  if part != dot * 2 or (not start and not parts) or (parts and parts[-1] == dot * 2):
|   parts.append(part)
|  elif parts: parts.pop()
| return start + slash.join(parts) or dot
|def abspath(path):
| path = fspath(path)
| if not isabs(path):
|  here = _os.getcwdb() if isinstance(path, bytes) else _os.getcwd()
|  path = join(here, path)
| return normpath(path)
|def realpath(path, strict=False):
| path = abspath(fspath(path))
| found = '/'
| parts = [part for part in path.split('/') if part][::-1]
| count = 0
| while parts:
|  part = parts.pop()
|  if part == '..':
|   found = dirname(found)
|   continue
|  if part == '.': continue
|  place = join(found, part)
|  try: target = _os.readlink(place)
|  except OSError:
|   if strict: _os.lstat(place)
|   found = place
|   continue
|  count += 1
|  if count > 40: return join(place, *parts[::-1])
|  if target.startswith('/'): found = '/'
|  parts.extend([part for part in target.split('/') if part][::-1])
| return found
|def relpath(path, start='.'):
| if not path: raise ValueError('no path specified')
| first = [part for part in abspath(start).split('/') if part]
| second = [part for part in abspath(path).split('/') if part]
| same = len(commonprefix([first, second]))
| return join(*['..'] * (len(first) - same) + second[same:]) if first != second else '.'
|def commonprefix(paths):
| if not paths: return ''
| if not isinstance(paths[0], (list, tuple)): paths = [fspath(path) for path in paths]
| least, most = min(paths), max(paths)
| for place, letter in enumerate(least):
|  if letter != most[place]: return least[:place]
| return least
|def commonpath(paths):
| if not paths: raise ValueError('commonpath() arg is an empty sequence')
| paths = [fspath(path) for path in paths]
| if len(\x7bpath.startswith('/') for path in paths\x7d) > 1:
|  raise ValueError(\"Can't mix absolute and relative paths\")
| rows = [[part for part in path.split('/') if part and part != '.'] for path in paths]
| return ('/' if paths[0].startswith('/') else '') + '/'.join(commonprefix(rows))
|def _facts(path, follows=True):
| try: return _os.stat(path) if follows else _os.lstat(path)
| except (OSError, ValueError): return None
|def exists(path): return _facts(path) is not None
|def lexists(path): return _facts(path, False) is not None
|def _is_kind(path, kind, follows=True):
| facts = _facts(path, follows)
| return facts is not None and facts.st_mode & 0o170000 == kind
|def isfile(path): return _is_kind(path, 0o100000)
|def isdir(path): return _is_kind(path, 0o040000)
|def islink(path): return _is_kind(path, 0o120000, False)
|def ismount(path): return abspath(path) == '/'
|def getsize(path): return _os.stat(path).st_size
|def getmtime(path): return _os.stat(path).st_mtime
|def getatime(path): return _os.stat(path).st_atime
|def getctime(path): return _os.stat(path).st_ctime
|def samefile(first, second):
| first, second = _os.stat(first), _os.stat(second)
| return first.st_ino == second.st_ino and first.st_dev == second.st_dev
|def expanduser(path):
| path = fspath(path)
| if not path.startswith('~'): return path
| name, slash, rest = path.partition('/')
| if name == '~': home = _os.environ.get('HOME', '/root')
| elif name == '~root': home = '/root'
| else: return path
| return (home.rstrip('/') + slash + rest) or '/'
|def expandvars(path):
| import re
| def found(match):
|  name = match.group(1)
|  if name.startswith('\x7b'): name = name[1:-1]
|  return _os.environ.get(name, match.group(0))
| return re.sub(r'\\$(\\w+|\\\x7b[^\x7d]*\\\x7d)', found, fspath(path), flags=re.ASCII)
|supports_unicode_filenames = False"

def statProgram : String :=
"S_IFMT_ = 0o170000
|S_IFSOCK, S_IFLNK, S_IFREG, S_IFBLK = 0o140000, 0o120000, 0o100000, 0o060000
|S_IFDIR, S_IFCHR, S_IFIFO = 0o040000, 0o020000, 0o010000
|S_ISUID, S_ISGID, S_ISVTX = 0o4000, 0o2000, 0o1000
|S_IRWXU, S_IRUSR, S_IWUSR, S_IXUSR = 0o700, 0o400, 0o200, 0o100
|S_IRWXG, S_IRGRP, S_IWGRP, S_IXGRP = 0o070, 0o040, 0o020, 0o010
|S_IRWXO, S_IROTH, S_IWOTH, S_IXOTH = 0o007, 0o004, 0o002, 0o001
|ST_MODE, ST_INO, ST_DEV, ST_NLINK, ST_UID = 0, 1, 2, 3, 4
|ST_GID, ST_SIZE, ST_ATIME, ST_MTIME, ST_CTIME = 5, 6, 7, 8, 9
|def S_IFMT(mode): return mode & S_IFMT_
|def S_IMODE(mode): return mode & 0o7777
|def S_ISDIR(mode): return S_IFMT(mode) == S_IFDIR
|def S_ISREG(mode): return S_IFMT(mode) == S_IFREG
|def S_ISLNK(mode): return S_IFMT(mode) == S_IFLNK
|def S_ISCHR(mode): return S_IFMT(mode) == S_IFCHR
|def S_ISBLK(mode): return S_IFMT(mode) == S_IFBLK
|def S_ISFIFO(mode): return S_IFMT(mode) == S_IFIFO
|def S_ISSOCK(mode): return S_IFMT(mode) == S_IFSOCK
|def filemode(mode):
| kinds = \x7bS_IFDIR: 'd', S_IFLNK: 'l', S_IFREG: '-', S_IFCHR: 'c', S_IFBLK: 'b',
|  S_IFIFO: 'p', S_IFSOCK: 's'\x7d
| found = [kinds.get(S_IFMT(mode), '?')]
| for shift, special, letter in ((6, S_ISUID, 's'), (3, S_ISGID, 's'), (0, S_ISVTX, 't')):
|  part = mode >> shift
|  found.append('r' if part & 4 else '-')
|  found.append('w' if part & 2 else '-')
|  if mode & special: found.append(letter if part & 1 else letter.upper())
|  else: found.append('x' if part & 1 else '-')
| return ''.join(found)"

def errnoProgram : String :=
"_names = ('EPERM ENOENT ESRCH EINTR EIO ENXIO E2BIG ENOEXEC EBADF ECHILD EAGAIN ENOMEM '
| 'EACCES EFAULT ENOTBLK EBUSY EEXIST EXDEV ENODEV ENOTDIR EISDIR EINVAL ENFILE EMFILE '
| 'ENOTTY ETXTBSY EFBIG ENOSPC ESPIPE EROFS EMLINK EPIPE EDOM ERANGE EDEADLK ENAMETOOLONG ENOLCK ENOSYS '
| 'ENOTEMPTY ELOOP').split()
|errorcode = \x7b\x7d
|for _number, _name in enumerate(_names, 1):
| globals()[_name] = _number
| errorcode[_number] = _name
|EWOULDBLOCK = 11
|ETIMEDOUT, ECONNREFUSED = 110, 111
|errorcode[110], errorcode[111] = 'ETIMEDOUT', 'ECONNREFUSED'"

def signalProgram : String :=
"from enum import IntEnum
|class Signals(IntEnum):
| SIGHUP = 1
| SIGINT = 2
| SIGQUIT = 3
| SIGILL = 4
| SIGTRAP = 5
| SIGABRT = 6
| SIGBUS = 7
| SIGFPE = 8
| SIGKILL = 9
| SIGUSR1 = 10
| SIGSEGV = 11
| SIGUSR2 = 12
| SIGPIPE = 13
| SIGALRM = 14
| SIGTERM = 15
| SIGCHLD = 17
| SIGCONT = 18
| SIGSTOP = 19
| SIGTSTP = 20
| SIGTTIN = 21
| SIGTTOU = 22
| SIGWINCH = 28
|class Handlers(IntEnum):
| SIG_DFL = 0
| SIG_IGN = 1
|for _member in list(Signals) + list(Handlers): globals()[_member.name] = _member
|_handlers = \x7b\x7d
|def signal(number, handler):
| before = _handlers.get(number, SIG_DFL)
| _handlers[number] = handler
| return before
|def getsignal(number): return _handlers.get(number, SIG_DFL)
|def raise_signal(number):
| import os
| handler = getsignal(number)
| if callable(handler): handler(number, None)
| elif handler != SIG_IGN: os.kill(os.getpid(), number)
|def alarm(seconds): return 0
|def strsignal(number):
| return \x7b2: 'Interrupt', 9: 'Killed', 15: 'Terminated', 1: 'Hangup'\x7d.get(number)"

def subprocessProgram : String :=
"import os as _os
|import sys as _sys
|import io as _io
|import _children
|PIPE, STDOUT, DEVNULL = -1, -2, -3
|class SubprocessError(Exception): pass
|class CalledProcessError(SubprocessError):
| def __init__(self, returncode, cmd, output=None, stderr=None):
|  self.returncode, self.cmd = returncode, cmd
|  self.output, self.stderr = output, stderr
| def __str__(self):
|  if self.returncode and self.returncode < 0:
|   import signal
|   try:
|    return \"Command '%s' died with %r.\" % (
|     self.cmd, signal.Signals(-self.returncode))
|   except ValueError:
|    return \"Command '%s' died with unknown signal %d.\" % (
|     self.cmd, -self.returncode)
|  return \"Command '%s' returned non-zero exit status %d.\" % (
|   self.cmd, self.returncode)
| stdout = property(lambda self: self.output)
|class TimeoutExpired(SubprocessError):
| def __init__(self, cmd, timeout, output=None, stderr=None):
|  self.cmd, self.timeout = cmd, timeout
|  self.output, self.stderr = output, stderr
| def __str__(self): return \"Command '%s' timed out after %s seconds\" % (self.cmd, self.timeout)
| stdout = property(lambda self: self.output)
|class CompletedProcess:
| def __init__(self, args, returncode, stdout=None, stderr=None):
|  self.args, self.returncode = args, returncode
|  self.stdout, self.stderr = stdout, stderr
| def __repr__(self):
|  parts = ['args=%r' % (self.args,), 'returncode=%r' % (self.returncode,)]
|  if self.stdout is not None: parts.append('stdout=%r' % (self.stdout,))
|  if self.stderr is not None: parts.append('stderr=%r' % (self.stderr,))
|  return 'CompletedProcess(%s)' % ', '.join(parts)
| def check_returncode(self):
|  if self.returncode:
|   raise CalledProcessError(self.returncode, self.args, self.stdout, self.stderr)
|class Popen:
| def __init__(self, args, bufsize=-1, executable=None, stdin=None, stdout=None,
|   stderr=None, preexec_fn=None, close_fds=True, shell=False, cwd=None, env=None,
|   universal_newlines=None, startupinfo=None, creationflags=0, restore_signals=True,
|   start_new_session=False, pass_fds=(), *, user=None, group=None, extra_groups=None,
|   encoding=None, errors=None, text=None, umask=-1, pipesize=-1, process_group=None):
|  self.args, self.returncode = args, None
|  self.stdin = self.stdout = self.stderr = None
|  self._is_text = bool(text or universal_newlines or encoding or errors)
|  self._coding = encoding, errors
|  if not (shell or isinstance(args, (str, bytes)) or hasattr(args, '__fspath__')):
|   args = list(args)
|  def known(place):
|   return place.fileno() if hasattr(place, 'fileno') and not isinstance(
|    place, int) and place not in (_sys.stdout, _sys.stderr, _sys.stdin) else place
|  for place in (stdout, stderr):
|   if place is not None and not isinstance(place, int): place.flush()
|  stdin, stdout, stderr = known(stdin), known(stdout), known(stderr)
|  table = dict(_os.environ if env is None else env)
|  if not args and not shell: raise IndexError('list index out of range')
|  number, first, second, third = _children.start(
|   args, shell, stdin, stdout, stderr, cwd, table)
|  self._number = number
|  self.pid = _children.pid(number)
|  if first: self.stdin = self._stream(first, 'w')
|  if second: self.stdout = self._stream(second, 'r')
|  if third: self.stderr = self._stream(third, 'r')
| def _stream(self, number, mode):
|  if self._is_text:
|   encoding, errors = self._coding
|   return open(number, mode, encoding=encoding, errors=errors)
|  return open(number, mode + 'b')
| def poll(self):
|  if self.returncode is None: self.returncode = _children.poll(self._number)
|  return self.returncode
| def wait(self, timeout=None):
|  if self.returncode is None:
|   self.returncode = _children.wait(self._number, timeout)
|   if self.returncode is None: raise TimeoutExpired(self.args, timeout)
|  return self.returncode
| def communicate(self, input=None, timeout=None):
|  if self.stdin is not None:
|   try:
|    if input: self.stdin.write(input)
|    self.stdin.close()
|   except BrokenPipeError: pass
|  if timeout is not None:
|   try: self.wait(timeout)
|   except TimeoutExpired: raise TimeoutExpired(self.args, timeout) from None
|  first = second = None
|  if self.stdout is not None:
|   first = self.stdout.read()
|   self.stdout.close()
|  if self.stderr is not None:
|   second = self.stderr.read()
|   self.stderr.close()
|  self.wait()
|  return first, second
| def send_signal(self, number):
|  if self.poll() is None: _children.send(self._number, int(number))
| def terminate(self): self.send_signal(15)
| def kill(self): self.send_signal(9)
| def __enter__(self): return self
| def __exit__(self, *rest):
|  for stream in (self.stdout, self.stderr, self.stdin):
|   if stream is not None: stream.close()
|  self.wait()
| def __repr__(self):
|  shown = repr(self.args)
|  return '<Popen: returncode: %s args: %s>' % (
|   self.returncode, shown if len(shown) <= 80 else shown[:76] + '...')
|def run(*args, input=None, capture_output=False, timeout=None, check=False, **named):
| if input is not None:
|  if named.get('stdin') is not None:
|   raise ValueError('stdin and input arguments may not both be used.')
|  named['stdin'] = PIPE
| if capture_output:
|  if named.get('stdout') is not None or named.get('stderr') is not None:
|   raise ValueError('stdout and stderr arguments may not be used '
|    'with capture_output.')
|  named['stdout'] = named['stderr'] = PIPE
| child = Popen(*args, **named)
| try: first, second = child.communicate(input, timeout)
| except TimeoutExpired:
|  child.kill()
|  child.wait()
|  raise
| code = child.poll()
| if check and code: raise CalledProcessError(code, child.args, first, second)
| return CompletedProcess(child.args, code, first, second)
|def call(*args, timeout=None, **named): return Popen(*args, **named).wait(timeout)
|def check_call(*args, **named):
| code = call(*args, **named)
| if code: raise CalledProcessError(code, named.get('args', args[0] if args else None))
| return 0
|def check_output(*args, timeout=None, **named):
| if 'stdout' in named: raise ValueError('stdout argument not allowed, it will be overridden.')
| return run(*args, stdout=PIPE, timeout=timeout, check=True, **named).stdout
|def getstatusoutput(cmd, *, encoding=None, errors=None):
| child = run(cmd, shell=True, text=True, stdout=PIPE, stderr=STDOUT)
| said = child.stdout
| return child.returncode, said[:-1] if said.endswith('\\n') else said
|def getoutput(cmd, *, encoding=None, errors=None): return getstatusoutput(cmd)[1]
|def list2cmdline(words):
| return ' '.join('\"%s\"' % word if not word or ' ' in word else word for word in words)"

/-!
## Packages about texts and numbers

These packages are about texts, codings, time and numbers.
-/

def reProgram : String :=
"from _patterns import compile as _compile, Pattern, Match, error
|from enum import IntFlag as _IntFlag
|class RegexFlag(_IntFlag):
| NOFLAG = 0
| TEMPLATE = 1
| IGNORECASE = 2
| LOCALE = 4
| MULTILINE = 8
| DOTALL = 16
| UNICODE = 32
| VERBOSE = 64
| DEBUG = 128
| ASCII = 256
| def __repr__(self):
|  value = int(self)
|  names = ['re.' + member.name for member in RegexFlag if member and member & value]
|  return '|'.join(names) or 're.NOFLAG' if value == 0 or names else hex(value)
| __str__ = __repr__
|NOFLAG, IGNORECASE, LOCALE, MULTILINE = (RegexFlag(value) for value in (0, 2, 4, 8))
|DOTALL, UNICODE, VERBOSE, DEBUG = (RegexFlag(value) for value in (16, 32, 64, 128))
|ASCII = RegexFlag.ASCII
|I, L, M, S, U, X, A = IGNORECASE, LOCALE, MULTILINE, DOTALL, UNICODE, VERBOSE, ASCII
|_known = \x7b\x7d
|def compile(pattern, flags=0):
| flags = int(flags)
| key = type(pattern), pattern, flags
| if key not in _known:
|  if len(_known) > 500: _known.clear()
|  _known[key] = _compile(pattern, flags)
| return _known[key]
|def match(pattern, string, flags=0): return compile(pattern, flags).match(string)
|def fullmatch(pattern, string, flags=0): return compile(pattern, flags).fullmatch(string)
|def search(pattern, string, flags=0): return compile(pattern, flags).search(string)
|def sub(pattern, repl, string, count=0, flags=0):
| return compile(pattern, flags).sub(repl, string, count)
|def subn(pattern, repl, string, count=0, flags=0):
| return compile(pattern, flags).subn(repl, string, count)
|def split(pattern, string, maxsplit=0, flags=0):
| return compile(pattern, flags).split(string, maxsplit)
|def findall(pattern, string, flags=0): return compile(pattern, flags).findall(string)
|def finditer(pattern, string, flags=0): return compile(pattern, flags).finditer(string)
|def purge(): _known.clear()
|_special = \x7b
| ord(letter): '\\\\' + letter for letter in '()[]\x7b\x7d?*+-|^$\\\\.&~# \\t\\n\\r\\v\\f'\x7d
|def escape(pattern):
| if isinstance(pattern, str): return pattern.translate(_special)
| return str(pattern, 'latin1').translate(_special).encode('latin1')"

end BaseLanguage.Shell.Objects
