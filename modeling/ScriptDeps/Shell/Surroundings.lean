/-
What stands on a machine before anything is done on it: its directories, its programs and a few
files that describe it.
-/
import ScriptDeps.Shell.Files
import ScriptDeps.Shell.Program
import ScriptDeps.Shell.Utility.Table
import ScriptDeps.Shell.Utility.Version

namespace ScriptDeps.Shell.Surroundings

/-- The directories, each behind the one that it stands in. -/
def directories : List String :=
  ["bin", "boot", "dev", "dev/fd", "dev/mqueue", "dev/pts", "dev/shm", "etc", "etc/alternatives",
    "etc/apt", "etc/cron.d", "etc/cron.daily", "etc/default", "etc/dpkg", "etc/init.d",
    "etc/ld.so.conf.d", "etc/logrotate.d", "etc/opt", "etc/pam.d", "etc/profile.d", "etc/security",
    "etc/selinux", "etc/skel", "etc/ssl", "etc/systemd", "etc/update-motd.d", "home", "lib", "lib64",
    "media", "mnt", "opt", "proc", "proc/self", "proc/self/fd", "proc/sys", "proc/sys/kernel", "root",
    "run", "run/lock", "sbin", "srv", "sys", "sys/class", "sys/devices", "sys/fs", "sys/kernel", "tmp",
    "usr", "usr/bin", "usr/games", "usr/include", "usr/lib", "usr/lib64", "usr/libexec", "usr/local",
    "usr/local/bin", "usr/local/etc", "usr/local/games", "usr/local/include", "usr/local/lib",
    "usr/local/sbin", "usr/local/share", "usr/local/src", "usr/sbin", "usr/share", "usr/share/doc",
    "usr/share/zoneinfo", "usr/src", "var", "var/backups", "var/cache", "var/lib", "var/local",
    "var/log", "var/mail", "var/opt", "var/spool", "var/tmp"]

/-- The devices. -/
def devices : List String :=
  ["null", "zero", "full", "random", "urandom", "tty", "stdin", "stdout", "stderr", "fd/0", "fd/1",
    "fd/2"]

/-- The users, each with a number, a group, a longer name, a home directory and a shell. -/
def users : List (String × Nat × Nat × String × String × String) :=
  let quiet := "/usr/sbin/nologin"
  [("root", 0, 0, "root", "/root", "/bin/bash"),
    ("daemon", 1, 1, "daemon", "/usr/sbin", quiet),
    ("bin", 2, 2, "bin", "/bin", quiet),
    ("sys", 3, 3, "sys", "/dev", quiet),
    ("sync", 4, 65534, "sync", "/bin", "/bin/sync"),
    ("games", 5, 60, "games", "/usr/games", quiet),
    ("man", 6, 12, "man", "/var/cache/man", quiet),
    ("lp", 7, 7, "lp", "/var/spool/lpd", quiet),
    ("mail", 8, 8, "mail", "/var/mail", quiet),
    ("news", 9, 9, "news", "/var/spool/news", quiet),
    ("uucp", 10, 10, "uucp", "/var/spool/uucp", quiet),
    ("proxy", 13, 13, "proxy", "/bin", quiet),
    ("www-data", 33, 33, "www-data", "/var/www", quiet),
    ("backup", 34, 34, "backup", "/var/backups", quiet),
    ("list", 38, 38, "Mailing List Manager", "/var/list", quiet),
    ("irc", 39, 39, "ircd", "/run/ircd", quiet),
    ("_apt", 42, 65534, "", "/nonexistent", quiet),
    ("nobody", 65534, 65534, "nobody", "/nonexistent", quiet)]

/-- The lines of the file of the users. -/
def userLines : String :=
  String.join (users.map fun (name, user, group, long, home, shell) =>
    ":".intercalate [name, "x", toString user, toString group, long, home, shell] ++ "\n")

/-- The groups, each with a number. -/
def groups : List (String × Nat) :=
  [("root", 0), ("daemon", 1), ("bin", 2), ("sys", 3), ("adm", 4), ("tty", 5), ("disk", 6), ("lp", 7),
    ("mail", 8), ("news", 9), ("uucp", 10), ("man", 12), ("proxy", 13), ("kmem", 15),
    ("dialout", 20), ("fax", 21), ("voice", 22), ("cdrom", 24), ("floppy", 25), ("tape", 26),
    ("sudo", 27), ("audio", 29), ("dip", 30), ("www-data", 33), ("backup", 34), ("operator", 37),
    ("list", 38), ("irc", 39), ("src", 40), ("shadow", 42), ("utmp", 43), ("video", 44),
    ("sasl", 45), ("plugdev", 46), ("staff", 50), ("games", 60), ("users", 100),
    ("nogroup", 65534)]

/-- The lines of the file of the groups. -/
def groupLines : String :=
  String.join (groups.map fun (name, number) => name ++ ":x:" ++ toString number ++ ":\n")

/-- The files that describe the machine. -/
def files : List (String × String) :=
  [("etc/passwd", userLines),
    ("etc/group", groupLines),
    ("etc/shadow", "root:*:19000:0:99999:7:::\n"),
    ("etc/shells", "# /etc/shells: valid login shells\n/bin/sh\n/usr/bin/sh\n/bin/bash\n/usr/bin/bash\n" ++
      "/bin/rbash\n/usr/bin/rbash\n/bin/dash\n/usr/bin/dash\n"),
    ("etc/hosts", "127.0.0.1\tlocalhost\n"),
    ("etc/hostname", "localhost\n"),
    ("etc/resolv.conf", ""),
    ("etc/fstab", "# UNCONFIGURED FSTAB FOR BASE SYSTEM\n"),
    ("etc/debian_version", "12.0\n"),
    ("etc/issue", "Debian GNU/Linux 12 \\n \\l\n\n"),
    ("etc/host.conf", "multi on\n"),
    ("etc/profile", ""),
    ("etc/bash.bashrc", ""),
    ("etc/nsswitch.conf", ""),
    ("etc/os-release", "PRETTY_NAME=\"Debian GNU/Linux 12 (bookworm)\"\nNAME=\"Debian GNU/Linux\"\n" ++
      "VERSION_ID=\"12\"\nVERSION=\"12 (bookworm)\"\nVERSION_CODENAME=bookworm\nID=debian\n"),
    ("proc/version", "Linux version 6.1.0\n"),
    ("proc/uptime", "1000.00 1000.00\n"),
    ("proc/sys/kernel/ostype", "Linux\n"),
    ("root/.bashrc", ""),
    ("root/.profile", "")]

/-- Programs of the machine that tell their version and otherwise do nothing here. -/
def silentPrograms : List String :=
  ["addpart", "apt", "apt-cache", "apt-config", "apt-get", "apt-key", "apt-mark", "chcon", "chrt",
    "choom", "delpart", "diff3", "dmesg", "dpkg", "dpkg-deb", "dpkg-divert", "dpkg-query",
    "dpkg-split", "dpkg-statoverride", "dpkg-trigger", "fallocate", "fincore", "findmnt", "flock",
    "getconf", "getent", "getopt", "gunzip", "gzexe", "gzip", "iconv", "ionice", "ipcmk", "ipcrm",
    "ipcs", "ldd", "linux32", "linux64", "locale", "localedef", "logger", "lsblk", "lscpu", "lsipc",
    "lslogins", "lsmem", "lsns", "mcookie", "mesg", "more", "mount", "mountpoint", "namei", "nsenter",
    "partx", "perl", "prlimit", "ptx", "rbash", "renice", "resizepart", "run-parts", "runcon",
    "script", "scriptlive", "scriptreplay", "sdiff", "setarch", "setpriv", "setterm", "su", "tar",
    "taskset", "umount", "unshare", "update-alternatives", "utmpdump", "wall", "wdctl", "whereis",
    "x86_64", "zcat", "zcmp", "zdiff", "zegrep", "zfgrep", "zforce", "zgrep", "zmore", "znew"]

/-- The names of all programs. -/
def programs : List String :=
  (Program.shells ++ Program.starters ++ Utility.names ++ silentPrograms ++
    Version.muteNames).eraseDups

def locationOf (path : String) : Location :=
  (Text.splitOn '/' path.toList).map String.ofList

/-- The directories and the files that are no programs. -/
def plainEntries : List (Location × Node) :=
  (directories.map fun d => (locationOf d, .directory)) ++
    (devices.map fun d => ("dev" :: locationOf d, .file ByteArray.empty false)) ++
    files.map fun (name, text) => (locationOf name, .file text.toUTF8 false)

/-- The programs. -/
def programEntries : List (Location × Node) :=
  programs.flatMap fun name =>
    let node : Node := .file (Program.content name) true
    [(["usr", "bin", name], node), (["bin", name], node)]

/-- All that stands on the machine. -/
def entries : List (Location × Node) :=
  plainEntries ++ programEntries

/-- The directories in which nothing can be made. -/
def frozen : List Location :=
  [["proc"]]

/-- The store of the machine, as seen from its root. -/
def store : Store :=
  ⟨entries, [], frozen⟩

/-- A store with the programs of the machine in it, and with what else stands on the machine where
the store has nothing. -/
def install (s : Store) : Store :=
  let own := programEntries
  let kept := s.entries.filter fun e => !own.any fun p => p.1 == e.1
  { s with
    entries := kept ++ own ++ plainEntries.filter fun e => !kept.any fun k => k.1 == e.1
    frozen }

/-- The links of the machine. -/
def links : List (Location × Bytes) :=
  ([("bin", "usr/bin"), ("sbin", "usr/sbin"), ("lib", "usr/lib"), ("lib64", "usr/lib64"),
    ("usr/bin/sh", "dash"), ("usr/bin/awk", "/etc/alternatives/awk"),
    ("etc/alternatives/awk", "/usr/bin/mawk"), ("var/run", "/run"), ("var/lock", "/run/lock")]
    ).map fun (name, text) => (locationOf name, text.toList)

end ScriptDeps.Shell.Surroundings
